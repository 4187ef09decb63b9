import VcenterAccess.Proofs.Connection.Readiness

/-!
# What a session manager is taken to say

Asking a session manager ends in a token or in the first thing that is wrong: with the
options, with the exchange, with the status, with the body, with the token in it.
`SharedTokenOptions.Verdict` says this with one case for each, and each case is what `request`
answers (`Verdict.request_eq`).

`SharedTokenOptions.requestIn` is the same with the exchange as an effect, so that it can be
told whether there is one.
-/

namespace VcenterAccess

/-! ## Bodies -/

namespace SharedToken

/-- A value carries a token: it is an object with one member of that name and names that are
texts, or an array of nothing else. -/
inductive Carries (token : String) : Json.Value → Prop where
  | object {before after : List (Option String × Json.Value)} :
      (∀ m ∈ before ++ after, ∃ name, m.1 = some name ∧ name ≠ "token") →
      Carries token (.object (before ++ (some "token", .string (some token)) :: after))
  | array : Carries token (.array [.string (some token)])

/-- A body is that of a value that carries a token. -/
def Decodes (body : List UInt8) (token : String) : Prop :=
  ∃ value, Json.parse? body = some value ∧ Carries token value

variable {token : String}

/-- A single hit splits a list. -/
theorem exists_of_filter_eq_singleton {α : Type} {p : α → Bool} {a : α} :
    ∀ {as : List α}, as.filter p = [a] →
      ∃ before after, as = before ++ a :: after ∧ ∀ b ∈ before ++ after, p b = false
  | [], h => by cases h
  | b :: as, h => by
      by_cases hb : p b = true
      · rw [List.filter_cons_of_pos hb] at h
        obtain ⟨rfl, hnil⟩ := List.cons.inj h
        refine ⟨[], as, rfl, fun c hc => ?_⟩
        exact Bool.eq_false_iff.mpr (List.filter_eq_nil_iff.mp hnil c hc)
      · rw [List.filter_cons_of_neg hb] at h
        obtain ⟨before, after, rfl, hnot⟩ := exists_of_filter_eq_singleton h
        exact ⟨b :: before, after, rfl,
          List.forall_mem_cons.mpr ⟨Bool.eq_false_iff.mpr hb, hnot⟩⟩

theorem mem_middle {α : Type} {a b : α} {before after : List α} :
    b ∈ before ++ a :: after ↔ b = a ∨ b ∈ before ++ after := by
  rw [List.mem_append, List.mem_cons, List.mem_append, or_left_comm]

theorem isTokenMember_eq_false_iff {m : Option String × Json.Value} :
    isTokenMember m = false ↔ m.1 ≠ some "token" :=
  decide_eq_false_iff_not

theorem carries_of_ofJson? {value : Json.Value} (h : ofJson? value = some token) :
    Carries token value := by
  unfold ofJson? at h
  split at h
  · next members =>
    split at h
    · cases h
    · next hnames =>
      split at h
      · next name text hfilter =>
        subst h
        obtain ⟨before, after, rfl, hothers⟩ := exists_of_filter_eq_singleton hfilter
        have htoken : isTokenMember (name, .string (some token)) = true := by
          have hmem : (name, Json.Value.string (some token)) ∈ List.filter isTokenMember
              (before ++ (name, .string (some token)) :: after) := by
            rw [hfilter]
            exact List.mem_singleton_self _
          exact (List.mem_filter.mp hmem).2
        obtain rfl : name = some "token" := of_decide_eq_true htoken
        refine .object fun m hm => ?_
        have hsome : m.1 ≠ none := fun hnone => hnames <| List.any_eq_true.mpr
          ⟨m, mem_middle.mpr (.inr hm), by rw [hnone, Option.isNone_none]⟩
        obtain ⟨name, hname⟩ := Option.ne_none_iff_exists'.mp hsome
        refine ⟨name, hname, fun heq => ?_⟩
        exact isTokenMember_eq_false_iff.mp (hothers m hm) (heq ▸ hname)
      · cases h
  · subst h
    exact .array
  · cases h

theorem ofJson?_of_carries {value : Json.Value} (h : Carries token value) :
    ofJson? value = some token := by
  cases h with
  | array => rfl
  | @object before after hothers =>
      have hnames : ¬ (before ++ (some "token", Json.Value.string (some token)) :: after).any
          (·.1.isNone) = true := by
        intro hany
        obtain ⟨m, hm, hnone⟩ := List.any_eq_true.mp hany
        rcases mem_middle.mp hm with rfl | hm
        · cases hnone
        · obtain ⟨name, hname, -⟩ := hothers m hm
          rw [hname] at hnone
          cases hnone
      have hnot : ∀ m ∈ before ++ after, ¬ isTokenMember m = true := fun m hm => by
        obtain ⟨name, hname, hne⟩ := hothers m hm
        refine Bool.eq_false_iff.mp (isTokenMember_eq_false_iff.mpr fun htoken => hne ?_)
        exact Option.some.inj (hname.symm.trans htoken)
      have hfilter : (before ++ (some "token", Json.Value.string (some token)) :: after).filter
          isTokenMember = [(some "token", .string (some token))] := by
        rw [List.filter_append, List.filter_cons_of_pos rfl,
          List.filter_eq_nil_iff.mpr fun m hm => hnot m (List.mem_append_left _ hm),
          List.filter_eq_nil_iff.mpr fun m hm => hnot m (List.mem_append_right _ hm),
          List.nil_append]
      rw [ofJson?, if_neg hnames, hfilter]

theorem decode?_eq_some_iff {body : List UInt8} : decode? body = some token ↔ Decodes body token := by
  rw [decode?, Option.bind_eq_some_iff]
  exact exists_congr fun value => and_congr_right fun _ =>
    ⟨carries_of_ofJson?, ofJson?_of_carries⟩

end SharedToken

/-! ## Answers -/

namespace SharedTokenOptions

open SharedToken

/-- What a session manager is asked with is there. -/
def Complete (o : SharedTokenOptions) : Prop := o.url ≠ "" ∧ o.token ≠ ""

instance (o : SharedTokenOptions) : Decidable o.Complete := inferInstanceAs (Decidable (_ ∧ _))

/-- The verdict on what comes out of an exchange. -/
inductive Judged (o : SharedTokenOptions) :
    Except HttpFailure HttpResponse → Except SharedTokenError String → Prop where
  | sendRequest {cause : HttpFailure} : Judged o (.error cause) (.error (.sendRequest o.url cause))
  /-- The status is another one than 200, whatever the body. -/
  | unexpectedStatus {response : HttpResponse} : response.status.code ≠ 200 →
      Judged o (.ok response) (.error (.unexpectedStatus o.url response.status))
  | decodeResponse {response : HttpResponse} : response.status.code = 200 →
      (∀ token, ¬ Decodes response.body token) →
      Judged o (.ok response) (.error (.decodeResponse o.url))
  | emptySessionToken {response : HttpResponse} : response.status.code = 200 →
      Decodes response.body "" → Judged o (.ok response) (.error (.emptySessionToken o.url))
  | token {response : HttpResponse} {token : String} : response.status.code = 200 →
      Decodes response.body token → token ≠ "" → Judged o (.ok response) (.ok token)

/-- The verdict on options, with what comes out of the exchange if it takes place. -/
inductive Verdict (o : SharedTokenOptions) (outcome : Except HttpFailure HttpResponse) :
    Except SharedTokenError String → Prop where
  | emptyUrl : o.url = "" → Verdict o outcome (.error .emptyUrl)
  | emptyToken : o.url ≠ "" → o.token = "" → Verdict o outcome (.error .emptyToken)
  | judged {r : Except SharedTokenError String} : o.Complete → o.Judged outcome r →
      Verdict o outcome r

variable {o : SharedTokenOptions} {outcome : Except HttpFailure HttpResponse}

theorem status_eq_ok_iff {response : HttpResponse} :
    response.status = .ok ↔ response.status.code = 200 :=
  ⟨congrArg HttpStatus.code, fun h => congrArg HttpStatus.mk h⟩

theorem Judged.judge_eq {r : Except SharedTokenError String} (h : o.Judged outcome r) :
    o.judge outcome = r := by
  cases h with
  | sendRequest => rfl
  | unexpectedStatus hstatus => exact if_pos fun heq => hstatus (status_eq_ok_iff.mp heq)
  | decodeResponse hstatus hbody =>
      have hnone := Option.eq_none_iff_forall_ne_some.mpr fun token htoken =>
        hbody token (decode?_eq_some_iff.mp htoken)
      rw [judge, ofResponse, if_neg (not_not.mpr (status_eq_ok_iff.mpr hstatus)), hnone]
  | emptySessionToken hstatus hbody =>
      rw [judge, ofResponse, if_neg (not_not.mpr (status_eq_ok_iff.mpr hstatus)),
        decode?_eq_some_iff.mpr hbody]
      rfl
  | token hstatus hbody hne =>
      rw [judge, ofResponse, if_neg (not_not.mpr (status_eq_ok_iff.mpr hstatus)),
        decode?_eq_some_iff.mpr hbody]
      exact if_neg (by rwa [String.isEmpty_iff])

theorem exists_judged (o : SharedTokenOptions) (outcome : Except HttpFailure HttpResponse) :
    ∃ r, o.Judged outcome r := by
  cases outcome with
  | error cause => exact ⟨_, .sendRequest⟩
  | ok response =>
      by_cases hstatus : response.status.code = 200
      · by_cases hbody : ∃ token, Decodes response.body token
        · obtain ⟨token, hbody⟩ := hbody
          by_cases hempty : token = ""
          · exact ⟨_, .emptySessionToken hstatus (hempty ▸ hbody)⟩
          · exact ⟨_, .token hstatus hbody hempty⟩
        · exact ⟨_, .decodeResponse hstatus (not_exists.mp hbody)⟩
      · exact ⟨_, .unexpectedStatus hstatus⟩

variable {exchange : SharedTokenOptions → Except HttpFailure HttpResponse}

theorem request_of_no_url (hurl : o.url = "") : o.request exchange = .error .emptyUrl := by
  have hmissing : o.missing? = some .emptyUrl := if_pos (by rwa [String.isEmpty_iff])
  rw [request, hmissing]

theorem Verdict.request_eq {r : Except SharedTokenError String} (h : o.Verdict (exchange o) r) :
    o.request exchange = r := by
  cases h with
  | emptyUrl hurl => exact request_of_no_url hurl
  | emptyToken hurl htoken => exact request_of_no_token hurl htoken
  | judged hcomplete hjudged =>
      rw [request_of_complete hcomplete.1 hcomplete.2, hjudged.judge_eq]

theorem exists_verdict (o : SharedTokenOptions) (outcome : Except HttpFailure HttpResponse) :
    ∃ r, o.Verdict outcome r := by
  by_cases hurl : o.url = ""
  · exact ⟨_, .emptyUrl hurl⟩
  · by_cases htoken : o.token = ""
    · exact ⟨_, .emptyToken hurl htoken⟩
    · obtain ⟨r, hr⟩ := o.exists_judged outcome
      exact ⟨r, .judged ⟨hurl, htoken⟩ hr⟩

theorem verdict_request (o : SharedTokenOptions)
    (exchange : SharedTokenOptions → Except HttpFailure HttpResponse) :
    o.Verdict (exchange o) (o.request exchange) := by
  obtain ⟨r, hr⟩ := o.exists_verdict (exchange o)
  exact hr.request_eq.symm ▸ hr

/-- A session manager that answers with a token does not answer with an empty one. -/
theorem token_ne_empty_of_request {token : String} (h : o.request exchange = .ok token) :
    token ≠ "" := by
  have hverdict := o.verdict_request exchange
  rw [h] at hverdict
  generalize exchange o = outcome at hverdict
  cases hverdict with
  | judged _ hjudged =>
      cases hjudged with
      | token _ _ hne => exact hne

/-! ## Exchanges that are counted -/

/-- Ask a session manager, with the exchange as an effect. -/
def requestIn {m : Type → Type} [Monad m]
    (exchange : SharedTokenOptions → m (Except HttpFailure HttpResponse)) (o : SharedTokenOptions) :
    m (Except SharedTokenError String) :=
  match o.missing? with
  | some e => return .error e
  | none => do return o.judge (← exchange o)

/-- An exchange that is written down. -/
def recorded (exchange : SharedTokenOptions → Except HttpFailure HttpResponse)
    (o : SharedTokenOptions) :
    StateM (List SharedTokenOptions) (Except HttpFailure HttpResponse) := do
  modify (· ++ [o])
  return exchange o

theorem requestIn_eq_request : requestIn (m := Id) exchange o = o.request exchange := by
  unfold requestIn request
  cases o.missing? <;> rfl

theorem missing?_eq_none_iff : o.missing? = none ↔ o.Complete := by
  unfold missing? Complete
  by_cases hurl : o.url = ""
  · simp [hurl]
  · by_cases htoken : o.token = "" <;> simp [hurl, htoken]

/-- There is one exchange if the options are complete, and none otherwise. -/
theorem requestIn_recorded (sent : List SharedTokenOptions) :
    (requestIn (recorded exchange) o).run sent =
      (o.request exchange, sent ++ if o.Complete then [o] else []) := by
  unfold requestIn request
  cases hmissing : o.missing? with
  | none =>
      rw [if_pos (missing?_eq_none_iff.mp hmissing)]
      rfl
  | some e =>
      have hincomplete : ¬ o.Complete := fun hcomplete => by
        rw [missing?_eq_none_iff.mpr hcomplete] at hmissing
        cases hmissing
      rw [if_neg hincomplete, List.append_nil]
      rfl

end SharedTokenOptions

end VcenterAccess
