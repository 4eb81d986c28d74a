import Rulebook.Proofs.Responses

/-!
# What is seen of every request

Whatever becomes of a request, it is observed once as a request and once with its time, under its
method, the template of its route and the status of its response.  Nothing else is observed as a
request, so that after any run both series count the requests that were answered so.  The response
carries the request id that was sent or, if there is none to keep, the next one of those that are
generated.
-/

namespace Rulebook

open Http

namespace Http

/-- What observations of requests without a route are filed under. -/
def unmatchedLabel : Text :=
  "unmatched".toList

namespace Route

def all : List Route :=
  [createRule, combineRules, evaluateRule, modifyRule, getRule, health]

/-- What observations of requests are filed under: the template of a route or, for all paths without
a route, one and the same label. -/
def labels : List Text :=
  unmatchedLabel :: all.map template

theorem mem_all (route : Route) : route ∈ all := by
  cases route <;> decide

/-- Whether a path belongs to a route. -/
def Has (route : Route) (path : Text) : Prop :=
  ∃ segment, route.Leads path segment

/-- Whether a path is filed under a label: the template of its route, or the label of all paths
without one. -/
def Files (path label : Text) : Prop :=
  (∃ route ∈ all, route.Has path ∧ label = route.template) ∨
    (∀ route ∈ all, ¬route.Has path) ∧ label = unmatchedLabel

theorem has_iff {route : Route} {path : Text} :
    route.Has path ↔ (ofPath? path).map Prod.fst = some route := by
  simp [Has, ← ofPath?_eq_some_iff]

theorem label_eq_iff {path label : Text} :
    Route.label ((ofPath? path).map Prod.fst) = label ↔ Files path label := by
  simp only [Files, has_iff]
  cases (ofPath? path).map Prod.fst with
  | none =>
      constructor
      · rintro rfl
        exact .inr ⟨fun _ _ => nofun, rfl⟩
      · rintro (⟨_, _, found, _⟩ | ⟨_, rfl⟩)
        · cases found
        · rfl
  | some route =>
      constructor
      · intro same
        exact .inl ⟨route, route.mem_all, rfl, same.symm⟩
      · rintro (⟨other, _, found, same⟩ | ⟨unfound, _⟩)
        · cases found
          exact same.symm
        · exact absurd rfl (unfound route route.mem_all)

theorem Files.mem_labels {path label : Text} (files : Files path label) : label ∈ labels := by
  rcases files with ⟨route, member, _, rfl⟩ | ⟨_, rfl⟩
  · exact List.mem_cons_of_mem _ (List.mem_map_of_mem member)
  · exact List.mem_cons_self

end Route

/-- Whether a character may be sent in a request id: a visible ASCII character, a space or a tab. -/
def IsSendable (c : Char) : Prop :=
  c = '\t' ∨ c = ' ' ∨ (0x21 ≤ c.toNat ∧ c.toNat ≤ 0x7E)

theorem isHeaderCharacter_iff {c : Char} : isHeaderCharacter c = true ↔ IsSendable c := by
  have space : c = ' ' ↔ c.toNat = 0x20 := by
    rw [← Char.toNat_inj]
    rfl
  rw [IsSendable, space]
  simp only [isHeaderCharacter, Bool.or_eq_true, beq_iff_eq, Bool.and_eq_true, decide_eq_true_eq]
  apply or_congr_right
  omega

namespace Request

/-- Whether a response carries the request id that was sent, which it does if one was sent and all
of its characters may be. -/
def Keeps (request : Request) (id : Text) : Prop :=
  request.requestId = some id ∧ ∀ c ∈ id, IsSendable c

/-- Whether no request id was sent that can be kept. -/
def KeepsNone (request : Request) : Prop :=
  ∀ id, ¬request.Keeps id

variable {request : Request}

theorem keptRequestId?_eq_some_iff {id : Text} :
    keptRequestId? request.requestId = some id ↔ request.Keeps id := by
  simp only [keptRequestId?, Option.filter_eq_some_iff, List.all_eq_true, isHeaderCharacter_iff,
    Keeps]

theorem keptRequestId?_eq_none_iff :
    keptRequestId? request.requestId = none ↔ request.KeepsNone := by
  simp only [Option.eq_none_iff_forall_ne_some, ne_eq, keptRequestId?_eq_some_iff, KeepsNone]

instance : DecidablePred KeepsNone :=
  fun _ => decidable_of_iff _ keptRequestId?_eq_none_iff

theorem Keeps.requestIdOr_eq {id : Text} (keeps : request.Keeps id) (generated : Text) :
    requestIdOr generated request.requestId = id := by
  rw [requestIdOr, keptRequestId?_eq_some_iff.mpr keeps, Option.getD_some]

theorem KeepsNone.requestIdOr_eq (drops : request.KeepsNone) (generated : Text) :
    requestIdOr generated request.requestId = generated := by
  rw [requestIdOr, keptRequestId?_eq_none_iff.mpr drops, Option.getD_none]

end Request

/-- A request that was answered. -/
structure Exchange where
  request : Request
  /-- The request id that the response carries. -/
  requestId : Text
  response : Response

namespace Exchange

/-- Whether a request has a method, a path that is filed under a label, and a response of some
status. -/
def IsSeenAs (method label : Text) (status : Nat) (exchange : Exchange) : Prop :=
  exchange.request.method = method ∧ Route.Files (path exchange.request.target) label ∧
    exchange.response.status = status

/-- What is observed of a request with its response. -/
def observations (exchange : Exchange) : List Series :=
  exchange.request.observations exchange.response.status

theorem isSeenAs_iff {method label : Text} {status : Nat} {exchange : Exchange} :
    exchange.IsSeenAs method label status ↔
      exchange.request.method = method ∧ exchange.request.routeLabel = label ∧
        exchange.response.status = status :=
  and_congr_right fun _ => and_congr_left fun _ => Route.label_eq_iff.symm

instance (method label : Text) (status : Nat) : DecidablePred (IsSeenAs method label status) :=
  fun _ => decidable_of_iff _ isSeenAs_iff.symm

/-- A request counts once in the series for how it is seen, and in no other series. -/
theorem count_observations {method label : Text} {status : Nat} {series : Series}
    (counts : series = .requests method label status ∨ series = .requestTimes method label status)
    (exchange : Exchange) :
    exchange.observations.count series =
      (decide (exchange.IsSeenAs method label status)).toNat := by
  by_cases seen : exchange.IsSeenAs method label status
  · rw [decide_eq_true seen]
    obtain ⟨rfl, rfl, rfl⟩ := isSeenAs_iff.mp seen
    rcases counts with rfl | rfl <;> simp [observations, Request.observations]
  · rw [decide_eq_false seen]
    rw [isSeenAs_iff] at seen
    apply List.count_eq_zero.mpr
    intro member
    rw [observations, Request.observations, List.mem_pair] at member
    rcases counts with rfl | rfl
    · rcases member with same | same <;> cases same
      exact seen ⟨rfl, rfl, rfl⟩
    · rcases member with same | same <;> cases same
      exact seen ⟨rfl, rfl, rfl⟩

end Exchange

end Http

namespace Step

open Operation

def request? : Step → Option Request
  | .request asked => some asked
  | _ => none

/-- The answered request of a step with what is seen of it. -/
def exchange? (step : Step) (report : StepReport) : Option Exchange :=
  match step, report.result with
  | .request asked, .ok (.response requestId response) => some ⟨asked, requestId, response⟩
  | _, _ => none

/-- A request is always answered, and it is observed besides what is observed of rules. -/
theorem perform_request (surroundings : Surroundings) (request : Request) (store : Store) :
    ∃ response inner,
      ((Step.request request).perform surroundings store).result =
        .ok (.response (requestIdOr (surroundings.requestIds 0) request.requestId) response) ∧
      ((Step.request request).perform surroundings store).recorded =
        inner ++ request.observations response.status ∧
      ∀ series ∈ inner, series.isOfRules = true := by
  obtain ⟨response, responded, left⟩ := request.answersFor_answer surroundings.timeText store
  have served := silent_request responded
  refine ⟨response, (request.answer surroundings.timeText store).recorded,
    congrArg Outcome.result served, congrArg Outcome.recorded served, ?_⟩
  cases calls : request.call? with
  | none =>
      rw [calls] at left
      rw [left.2]
      exact fun _ member => absurd member List.not_mem_nil
  | some call =>
      rw [calls] at left
      rw [left.2.1]
      exact fun _ => Call.isOfRules_of_mem_recorded

theorem exchange?_request (surroundings : Surroundings) (asked : Request) (store : Store) :
    ∃ response, (Step.request asked).exchange? ((Step.request asked).report surroundings store) =
      some ⟨asked, requestIdOr (surroundings.requestIds 0) asked.requestId, response⟩ := by
  obtain ⟨response, _, result_eq, _⟩ := perform_request surroundings asked store
  refine ⟨response, ?_⟩
  dsimp only [exchange?, report]
  rw [result_eq]

/-- A request takes the next request id that is generated exactly if it has none to keep. -/
theorem surroundingsAfter_request (surroundings : Surroundings) (asked : Request) :
    (Step.request asked).surroundingsAfter surroundings =
      if asked.KeepsNone then surroundings.advance else surroundings := by
  simp only [surroundingsAfter, Option.isNone_iff_eq_none, Request.keptRequestId?_eq_none_iff]

theorem surroundingsAfter_eq {step : Step} (direct : step.isRequest = false)
    (surroundings : Surroundings) : step.surroundingsAfter surroundings = surroundings := by
  cases step with
  | request asked => cases direct
  | _ => rfl

theorem request?_eq_none {step : Step} (direct : step.isRequest = false) :
    step.request? = none := by
  cases step with
  | request asked => cases direct
  | _ => rfl

theorem exchange?_eq_none {step : Step} (direct : step.isRequest = false) (report : StepReport) :
    step.exchange? report = none := by
  cases step with
  | request asked => cases direct
  | _ => rfl

/-- A step observes nothing of requests but the request that it makes, if it makes one. -/
theorem filter_recorded_perform (surroundings : Surroundings) (step : Step) (store : Store) :
    (step.perform surroundings store).recorded.filter (!·.isOfRules) =
      (step.exchange? (step.report surroundings store)).toList.flatMap Exchange.observations := by
  cases direct : step.isRequest with
  | true =>
      cases step <;> cases direct
      next asked =>
      obtain ⟨response, inner, result_eq, recorded_eq, inner_rules⟩ :=
        perform_request surroundings asked store
      have no_requests : inner.filter (!·.isOfRules) = [] := by
        rw [List.filter_eq_nil_iff]
        intro series member
        simp [inner_rules series member]
      dsimp only [exchange?, report]
      rw [result_eq, recorded_eq, List.filter_append, no_requests]
      rfl
  | false =>
      rw [exchange?_eq_none direct, recorded_perform direct]
      apply List.filter_eq_nil_iff.mpr
      intro series member
      obtain ⟨answered, _, observed⟩ := List.mem_flatMap.mp member
      simp [AnsweredCall.isOfRules_of_mem_observations observed]

end Step

namespace Session

/-- The requests that steps made, each with its response. -/
def exchanges (steps : List Step) (reports : List StepReport) : List Exchange :=
  gather Step.exchange? steps reports

/-- Whether exchanges have the request ids that are due to them: each one that was sent and can be
kept, and otherwise those of a supply, one after another. -/
structure HaveRequestIds (supply : Nat → Text) (served : List Exchange) : Prop where
  kept : ∀ exchange ∈ served, ∀ id, exchange.request.Keeps id → exchange.requestId = id
  generated :
    let fresh := served.filter (·.request.KeepsNone)
    fresh.map Exchange.requestId = (List.range fresh.length).map supply

namespace HaveRequestIds

theorem nil (supply : Nat → Text) : HaveRequestIds supply [] where
  kept _ member := absurd member List.not_mem_nil
  generated := rfl

theorem cons_of_keeps {supply : Nat → Text} {served : List Exchange} {exchange : Exchange}
    {id : Text} (keeps : exchange.request.Keeps id) (carries : exchange.requestId = id)
    (later : HaveRequestIds supply served) : HaveRequestIds supply (exchange :: served) where
  kept := by
    refine List.forall_mem_cons.mpr ⟨fun other kept => ?_, later.kept⟩
    rw [carries, ← Option.some_inj, ← keeps.1, kept.1]
  generated := by
    have kept : ¬exchange.request.KeepsNone := fun drops => drops id keeps
    rw [List.filter_cons_of_neg (by simpa using kept)]
    exact later.generated

theorem cons_of_keepsNone {supply : Nat → Text} {served : List Exchange} {exchange : Exchange}
    (drops : exchange.request.KeepsNone) (carries : exchange.requestId = supply 0)
    (later : HaveRequestIds (fun n => supply (n + 1)) served) :
    HaveRequestIds supply (exchange :: served) where
  kept := List.forall_mem_cons.mpr ⟨fun id keeps => absurd keeps (drops id), later.kept⟩
  generated := by
    dsimp only
    rw [List.filter_cons_of_pos (by simpa using drops), List.map_cons, later.generated, carries,
      List.length_cons, List.range_succ_eq_map, List.map_cons, List.map_map]
    rfl

theorem nodup {supply : Nat → Text} {served : List Exchange} (due : HaveRequestIds supply served)
    (distinct : ∀ m n, supply m = supply n → m = n) :
    ((served.filter (·.request.KeepsNone)).map Exchange.requestId).Nodup := by
  rw [due.generated]
  exact List.pairwise_map.mpr (List.nodup_range.imp fun apart same => apart (distinct _ _ same))

end HaveRequestIds

/-- No request is left without a response, and every response carries the request id that is due. -/
theorem exchanges_run (surroundings : Surroundings) (store : Store) (steps : List Step) :
    (exchanges steps (run surroundings store steps).reports).map Exchange.request =
        steps.filterMap Step.request? ∧
      HaveRequestIds surroundings.requestIds
        (exchanges steps (run surroundings store steps).reports) := by
  induction steps generalizing surroundings store with
  | nil => exact ⟨rfl, .nil _⟩
  | cons step steps induction =>
      obtain ⟨requests_eq, due⟩ := induction (step.surroundingsAfter surroundings)
        (step.perform surroundings store).store
      rw [exchanges, gather_run_cons, ← exchanges]
      generalize exchanges steps _ = later at requests_eq due ⊢
      cases direct : step.isRequest with
      | true =>
          cases step <;> cases direct
          next asked =>
          obtain ⟨response, taken⟩ := Step.exchange?_request surroundings asked store
          rw [taken]
          refine ⟨congrArg (asked :: ·) requests_eq, ?_⟩
          rw [Step.surroundingsAfter_request] at due
          by_cases drops : asked.KeepsNone
          · rw [if_pos drops] at due
            exact due.cons_of_keepsNone drops (drops.requestIdOr_eq _)
          · rw [if_neg drops] at due
            obtain ⟨id, keeps⟩ := not_forall_not.mp drops
            exact due.cons_of_keeps keeps (keeps.requestIdOr_eq _)
      | false =>
          rw [Step.surroundingsAfter_eq direct] at due
          rw [Step.exchange?_eq_none direct, List.filterMap_cons, Step.request?_eq_none direct]
          exact ⟨requests_eq, due⟩

/-- What a run records of requests is what is to be observed of its requests. -/
theorem count_recorded_run {series : Series} (ofRequests : series.isOfRules = false)
    (surroundings : Surroundings) (store : Store) (steps : List Step) :
    (run surroundings store steps).recorded.count series =
      ((exchanges steps (run surroundings store steps).reports).flatMap
        Exchange.observations).count series := by
  rw [exchanges, ← filter_recorded_run (!·.isOfRules)
    fun step _ surroundings store => step.filter_recorded_perform surroundings store,
    List.count_filter]
  rw [ofRequests]
  rfl

theorem count_run {method label : Text} {status : Nat} {series : Series}
    (counts : series = .requests method label status ∨ series = .requestTimes method label status)
    (surroundings : Surroundings) (store : Store) (steps : List Step) :
    (run surroundings store steps).recorded.count series =
      (exchanges steps (run surroundings store steps).reports).countP
        (·.IsSeenAs method label status) := by
  have ofRequests : series.isOfRules = false := by
    rcases counts with rfl | rfl <;> rfl
  rw [count_recorded_run ofRequests]
  exact Series.count_flatMap (Exchange.count_observations counts) _

/-- Every request of a run is observed exactly once, from whatever store the run starts, whatever
else it does and whatever becomes of the request.  Each one has a response, and for every method,
label and status both the count and the times of requests number those that were seen so, where the
label of a path is the template of its route or the one label of all paths without a route.  Other
labels do not occur.  A response carries the request id that was sent if all characters of it may be
sent.  The others carry generated request ids, each of them the next one, so that no two of them are
the same if all that are generated differ. -/
theorem requests_are_observed_once (surroundings : Surroundings) (store : Store)
    (steps : List Step) (session : Session) (ran : run surroundings store steps = session)
    (served : List Exchange) (met : exchanges steps session.reports = served) :
    served.map Exchange.request = steps.filterMap Step.request? ∧
      (∀ method label status,
        session.recorded.count (.requests method label status) =
            served.countP (·.IsSeenAs method label status) ∧
          session.recorded.count (.requestTimes method label status) =
            served.countP (·.IsSeenAs method label status)) ∧
      (∀ method label status,
        .requests method label status ∈ session.recorded ∨
            .requestTimes method label status ∈ session.recorded → label ∈ Route.labels) ∧
      HaveRequestIds surroundings.requestIds served ∧
      ((∀ m n, surroundings.requestIds m = surroundings.requestIds n → m = n) →
        ((served.filter (·.request.KeepsNone)).map Exchange.requestId).Nodup) := by
  subst ran met
  obtain ⟨requests_eq, due⟩ := exchanges_run surroundings store steps
  refine ⟨requests_eq, ?_, ?_, due, due.nodup⟩
  · exact fun _ _ _ =>
      ⟨count_run (.inl rfl) surroundings store steps, count_run (.inr rfl) surroundings store steps⟩
  · intro method label status recorded
    have seen : 0 < (exchanges steps (run surroundings store steps).reports).countP
        (·.IsSeenAs method label status) := by
      rcases recorded with recorded | recorded
      · rw [← count_run (.inl rfl)]
        exact List.count_pos_iff.mpr recorded
      · rw [← count_run (.inr rfl)]
        exact List.count_pos_iff.mpr recorded
    obtain ⟨exchange, _, is_seen⟩ := List.countP_pos_iff.mp seen
    exact (of_decide_eq_true is_seen).2.1.mem_labels

/-- One request to a route, one with a method that its route does not answer, and one to no route
with a request id that cannot be carried. -/
theorem requests_are_observed_once_without_route :
    let generated (n : Nat) : Text :=
      "67e55044-10b1-426f-9247-bb680e5fe0c".toList ++ Numeral.ofNat n
    let surroundings : Surroundings := ⟨Numeral.ofNat, generated⟩
    ∃ steps session served,
      steps = [.request ⟨"GET".toList, "/health".toList, none, [], some "trace 7".toList⟩,
        .request ⟨"PUT".toList, "/rules/$1".toList, none, [], none⟩,
        .request ⟨"GET".toList, "/rules".toList, none, [], some "é".toList⟩] ∧
      run surroundings .empty steps = session ∧ exchanges steps session.reports = served ∧
      served.map Exchange.requestId = ["trace 7".toList,
        "67e55044-10b1-426f-9247-bb680e5fe0c0".toList,
        "67e55044-10b1-426f-9247-bb680e5fe0c1".toList] ∧
      HaveRequestIds generated served ∧
      ((served.filter (·.request.KeepsNone)).map Exchange.requestId).Nodup ∧
      session.recorded.count (.requests "GET".toList "/health".toList 200) = 1 ∧
      session.recorded.count (.requestTimes "PUT".toList "/rules/\x7bid\x7d".toList 405) = 1 ∧
      session.recorded.count (.requests "GET".toList unmatchedLabel 404) = 1 := by
  intro generated surroundings
  have distinct (m n : Nat) (same : generated m = generated n) : m = n := by
    rw [← Numeral.value_ofNat m, ← Numeral.value_ofNat n]
    exact congrArg Numeral.value (List.append_cancel_left same)
  generalize steps_eq : [Step.request ⟨"GET".toList, "/health".toList, none, [],
      some "trace 7".toList⟩,
    .request ⟨"PUT".toList, "/rules/$1".toList, none, [], none⟩,
    .request ⟨"GET".toList, "/rules".toList, none, [], some "é".toList⟩] = steps
  obtain ⟨_, counted, _, due, apart⟩ :=
    requests_are_observed_once surroundings .empty steps _ rfl _ rfl
  refine ⟨steps, _, _, rfl, rfl, rfl, ?_, due, apart distinct, ?_⟩
  · rw [← steps_eq]
    decide
  · rw [(counted _ _ _).1, (counted _ _ _).2, (counted _ _ _).1, ← steps_eq]
    refine ⟨?_, ?_, ?_⟩ <;> decide

end Session

end Rulebook
