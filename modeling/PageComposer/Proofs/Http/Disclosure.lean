import PageComposer.Site

/-!
# What answers to server errors disclose

An answer with a status of a server error carries the generic report of its status and path,
whatever fault it is given for, and so nothing that the fault says.  There is one exception:
an HTTP error that is raised with such a status by itself is answered with its detail.
-/

namespace PageComposer

open Http

/-! ### What reports hold -/

namespace Http.Report

theorem toValue_generic (path : String) (status : Value) :
    (Report.generic status path).toValue =
      .object [("error", .object ([("status_code", status),
        ("message", .str "An unexpected error occurred. Please try again later."),
        ("type", .str (Status.name status)), ("error_code", .str "INTERNAL_ERROR")] ++
          if path.isEmpty then [] else [("path", .str path)]))] := by
  by_cases rooted : path = "" <;>
    simp [Report.toValue, Report.generic, Value.truthy, rooted, ErrorCode.text]

theorem toValue_ofHttp (path : String) (status : Value) (detail : String) :
    (Report.ofHttp path status detail).toValue =
      .object [("error", .object ([("status_code", status), ("message", .str detail),
        ("type", .str (Status.name status)),
        ("error_code", .str (if Status.code? status = some 404 then "RESOURCE_NOT_FOUND"
          else "BAD_REQUEST"))] ++ if path.isEmpty then [] else [("path", .str path)]))] := by
  by_cases missing : Status.code? status = some 404 <;> by_cases rooted : path = "" <;>
    simp [Report.toValue, Report.ofHttp, Value.truthy, missing, rooted, ErrorCode.text]

end Http.Report

/-! ### Plain texts are sent as they are -/

namespace Text.StandIns

/-- Only quoted characters are put back, and quoting takes a backslash. -/
theorem restoredFrom_of_plain (standIns : StandIns) {chars : List Char} (plain : '\\' ∉ chars) :
    restoredFrom standIns 0 chars = chars := by
  induction chars with
  | nil => rfl
  | cons char rest induction =>
      rw [List.mem_cons, not_or] at plain
      rw [restoredFrom.eq_4 standIns rest char fun _ quotes _ => plain.1 quotes.symm,
        induction plain.2]

theorem restored_of_plain (standIns : StandIns) {text : String} (plain : '\\' ∉ text.toList) :
    standIns.restored text = text := by
  rw [restored, restoredFrom_of_plain standIns plain, String.ofList_toList]

end Text.StandIns

theorem Http.Incoming.plain_shownPath (incoming : Incoming) :
    '\\' ∉ incoming.shownPath.toList := by
  have shown (char : Char) : '\\' ∉ Incoming.shownChar char := by
    unfold Incoming.shownChar
    split
    · decide
    · decide
    · decide
    · decide
    · decide
    · rename_i backslash _ _ _
      simpa using fun same => backslash same.symm
  simp only [Incoming.shownPath, String.toList_ofList, List.mem_flatMap, not_exists, not_and]
  intro char _
  exact shown char

theorem Http.Status.plain_name (status : Value) : '\\' ∉ (name status).toList := by
  unfold name
  split <;> decide

/-- The report that gives nothing away holds no quoted character that could be put back. -/
theorem restored_generic (standIns : Text.StandIns) (incoming : Incoming) {status : Value}
    (number : status.quantity?.isSome = true) :
    Answer.restored standIns (Report.generic status incoming.shownPath).toValue =
      (Report.generic status incoming.shownPath).toValue := by
  have path := standIns.restored_of_plain incoming.plain_shownPath
  have name := standIns.restored_of_plain (Status.plain_name status)
  have texts (text : String) (plain : '\\' ∉ text.toList) := standIns.restored_of_plain plain
  have given : Answer.restored standIns status = status := by
    cases status <;> first | rfl | simp [Value.quantity?, Value.number?] at number
  rw [Report.toValue_generic]
  by_cases rooted : incoming.shownPath = "" <;>
    simp (disch := decide) [rooted, Answer.restored, Answer.restoredFields, name, path, given,
      texts]

/-! ### From a fault to an answer -/

namespace Http

/-- A fault without a report. -/
def Unexpected (fault : Fault) : Prop := ∀ path, Report.ofFault path fault = .error fault

/-- A status of a server error. -/
def Serious (status : Value) : Prop := Status.isAtLeast status 500 = true

/-- An HTTP error that has a status of a server error, and one that can be written. -/
def Outspoken (fault : Fault) : Prop :=
  ∃ status detail, fault = .http status detail ∧ Serious status ∧ Answer.writable status = true

def genericAnswer (path : String) (status : Value) : Answer :=
  ⟨status, .data (Report.generic status path).toValue⟩

variable {path : String} {fault : Fault} {report : Report} {answer : Answer}
  {standIns : Option Text.StandIns}

theorem unexpected_misuse (cause : Misuse) : Unexpected (.misuse cause) := fun _ => rfl

theorem unexpected_refusal (cause : Refusal) : Unexpected (.refusal cause) := fun _ => rfl

instance (status : Value) : Decidable (Serious status) :=
  inferInstanceAs (Decidable (Status.isAtLeast status 500 = true))

theorem not_serious_badRequest : ¬ Serious (.int 400) := by decide +kernel

theorem Serious.quantity {status : Value} (serious : Serious status) :
    status.quantity?.isSome = true := by
  unfold Serious Status.isAtLeast at serious
  cases counts : status.quantity? with
  | none => simp [counts] at serious
  | some number => rfl

/-- A report with a status of a server error is the generic one, unless the fault is an HTTP
error of that status. -/
theorem ofFault_serious (made : Report.ofFault path fault = .ok report)
    (serious : Serious report.status) :
    report = Report.generic report.status path ∨
      ∃ detail, fault = .http report.status detail ∧
        report = Report.ofHttp path report.status detail := by
  cases fault with
  | http status detail =>
      obtain rfl := Except.ok.inj made
      exact .inr ⟨detail, rfl, rfl⟩
  | problem cause =>
      left
      simp only [Report.ofFault, Report.ofProblem] at made
      split at made
      all_goals try
        obtain rfl := Except.ok.inj made
        exact absurd serious not_serious_badRequest
      split at made
      · cases made
      · split at made
        · obtain rfl := Except.ok.inj made
          rfl
        · rename_i mild
          obtain rfl := Except.ok.inj made
          exact absurd serious mild
  | _ => simp [Report.ofFault] at made

/-- What a fault comes to when it has no report has none either. -/
theorem unexpected_of_ofFault {other : Fault} (failed : Report.ofFault path fault = .error other) :
    Unexpected other := by
  cases fault with
  | http status detail => cases failed
  | problem cause =>
      simp only [Report.ofFault, Report.ofProblem] at failed
      split at failed
      all_goals try cases failed
      split at failed
      · cases failed
        exact unexpected_misuse _
      · split at failed <;> cases failed
  | _ =>
      cases failed
      exact fun _ => rfl

theorem canBeKey_of_quantity {status : Value} (number : status.quantity?.isSome = true) :
    status.canBeKey = true := by
  cases status <;> first | rfl | simp [Value.quantity?, Value.number?] at number

/-- A report is written when it can be and its status is a number. -/
theorem ofReport_eq (number : report.status.quantity?.isSome = true)
    (writable : Answer.writable report.toValue = true) :
    Answer.ofReport report = .ok ⟨report.status, .data report.toValue⟩ := by
  simp [Answer.ofReport, Status.lookup, Value.asKey, canBeKey_of_quantity number, Answer.ofData,
    writable, Option.isSome_iff_ne_none.mp number, bind, Except.bind, pure, Except.pure]

theorem ofReport_cases (report : Report) :
    (∃ fault, Answer.ofReport report = .error fault ∧ Unexpected fault) ∨
      Answer.writable report.toValue = true ∧
        Answer.ofReport report = .ok ⟨report.status, .data report.toValue⟩ := by
  by_cases key : report.status.canBeKey = true
  · by_cases writable : Answer.writable report.toValue = true
    · cases counts : report.status.quantity? with
      | none =>
          left
          refine ⟨_, ?_, unexpected_misuse (.incomparable "<" report.status.kind)⟩
          simp [Answer.ofReport, Status.lookup, Value.asKey, key, Answer.ofData, writable, counts,
            bind, Except.bind, pure, Except.pure]
      | some number => exact .inr ⟨writable, ofReport_eq (by simp [counts]) writable⟩
    · left
      refine ⟨_, ?_, unexpected_refusal .notFinite⟩
      simp [Answer.ofReport, Status.lookup, Value.asKey, key, Answer.ofData, writable,
        bind, Except.bind, pure, Except.pure]
  · left
    refine ⟨_, ?_, unexpected_misuse (.notAKey report.status.kind)⟩
    simp [Answer.ofReport, Status.lookup, Value.asKey, key, bind, Except.bind]

theorem sent_cases (standIns : Option Text.StandIns) (answer : Answer) :
    (∃ fault, Answer.sent standIns answer = .error fault ∧ Unexpected fault) ∨
      ∃ content, Answer.sent standIns answer = .ok ⟨answer.status, content⟩ := by
  cases standIns with
  | none => exact .inr ⟨answer.content, rfl⟩
  | some standIns =>
      simp only [Answer.sent]
      split
      · exact .inr ⟨_, rfl⟩
      · exact .inl ⟨_, rfl, unexpected_misuse _⟩

end Http

namespace Site

variable {incoming : Incoming} {fault : Fault}

/-- What a fault that leaves a route is answered with, given what stands in for surrogates in the
body of the request. -/
def answerTo (incoming : Incoming) (standIns : Option Text.StandIns) (fault : Fault) : Answer :=
  (settle incoming ((report incoming.shownPath (.error fault)).bind (Answer.sent standIns))).answer

theorem settle_ok (incoming : Incoming) (answer : Answer) :
    (settle incoming (.ok answer)).answer = answer := rfl

theorem report_unexpected (unexpected : Unexpected fault) (path : String) :
    report path (.error fault) = .error fault := by
  simp [report, unexpected path, bind, Except.bind]

theorem settle_unexpected (incoming : Incoming) (unexpected : Unexpected fault) :
    (settle incoming (.error fault)).answer = genericAnswer incoming.shownPath (.int 500) := by
  simp [settle, report_unexpected unexpected, genericAnswer]

theorem report_cases (path : String) (fault : Fault) :
    (∃ other, report path (.error fault) = .error other ∧ Unexpected other) ∨
      ∃ made, Report.ofFault path fault = .ok made ∧ Answer.writable made.toValue = true ∧
        report path (.error fault) = .ok ⟨made.status, .data made.toValue⟩ := by
  rcases given : Report.ofFault path fault with other | made
  · left
    refine ⟨other, ?_, unexpected_of_ofFault given⟩
    simp [report, given, bind, Except.bind]
  · rcases ofReport_cases made with ⟨other, failed, unexpected⟩ | ⟨writable, answered⟩
    · exact .inl ⟨other, by simp [report, given, failed, bind, Except.bind], unexpected⟩
    · exact .inr ⟨made, rfl, writable, by simp [report, given, answered, bind, Except.bind]⟩

/-- The answer to a fault is generic, or it is what is sent of a report. -/
theorem answerTo_cases (incoming : Incoming) (standIns : Option Text.StandIns) (fault : Fault) :
    answerTo incoming standIns fault = genericAnswer incoming.shownPath (.int 500) ∨
      ∃ made, Report.ofFault incoming.shownPath fault = .ok made ∧
        Answer.writable made.toValue = true ∧
        Answer.sent standIns ⟨made.status, .data made.toValue⟩ =
          .ok (answerTo incoming standIns fault) ∧
        (answerTo incoming standIns fault).status = made.status := by
  unfold answerTo
  rcases report_cases incoming.shownPath fault with ⟨other, failed, unexpected⟩ |
    ⟨made, given, writable, answered⟩
  · left
    rw [failed]
    exact settle_unexpected incoming unexpected
  · rw [answered]
    rcases sent_cases standIns ⟨made.status, .data made.toValue⟩ with
      ⟨other, failed, unexpected⟩ | ⟨content, sent⟩
    · left
      simp only [Except.bind, failed]
      exact settle_unexpected incoming unexpected
    · right
      refine ⟨made, given, writable, ?_, ?_⟩ <;> simp only [Except.bind, sent, settle_ok]

theorem sent_generic {standIns : Option Text.StandIns} {status : Value} {answer : Answer}
    (serious : Serious status)
    (sent : Answer.sent standIns (genericAnswer incoming.shownPath status) = .ok answer) :
    answer = genericAnswer incoming.shownPath status := by
  cases standIns with
  | none => exact (Except.ok.inj sent).symm
  | some standIns =>
      have restored := restored_generic standIns incoming serious.quantity
      simp only [Answer.sent, genericAnswer, Answer.restoredContent, restored] at sent
      split at sent
      · exact (Except.ok.inj sent).symm
      · cases sent

theorem answerTo_generic {standIns : Option Text.StandIns}
    (serious : Serious (answerTo incoming standIns fault).status) (reserved : ¬ Outspoken fault) :
    answerTo incoming standIns fault =
      genericAnswer incoming.shownPath (answerTo incoming standIns fault).status := by
  rcases answerTo_cases incoming standIns fault with generic |
    ⟨made, given, writable, sent, status⟩
  · rw [generic]
    rfl
  · rw [status] at serious ⊢
    rcases ofFault_serious given serious with generic | ⟨detail, raised, reported⟩
    · rw [generic] at sent
      exact sent_generic serious sent
    · exfalso
      apply reserved
      refine ⟨made.status, detail, raised, serious, ?_⟩
      simp only [Report.toValue, List.cons_append, List.nil_append, Answer.writable,
        Answer.writableFields, Bool.and_eq_true] at writable
      exact writable.1.1

theorem writable_ofHttp (path : String) (status : Value) (detail : String) :
    Answer.writable (Report.ofHttp path status detail).toValue = Answer.writable status := by
  rw [Report.toValue_ofHttp]
  by_cases rooted : path = "" <;> simp [Answer.writable, Answer.writableFields, rooted]

theorem answerTo_outspoken {status : Value} {detail : String} (serious : Serious status)
    (writable : Answer.writable status = true) :
    answerTo incoming none (.http status detail) =
      ⟨status, .data (Report.ofHttp incoming.shownPath status detail).toValue⟩ := by
  have answered : Answer.ofReport (Report.ofHttp incoming.shownPath status detail) =
      .ok ⟨status, .data (Report.ofHttp incoming.shownPath status detail).toValue⟩ :=
    ofReport_eq serious.quantity (by rwa [writable_ofHttp])
  simp [answerTo, report, Report.ofFault, answered, Answer.sent, settle, bind, Except.bind]

/-- Such an answer is never the generic one: it has another code. -/
theorem ofHttp_ne_generic (path : String) (status other : Value) (detail : String) :
    (Report.ofHttp path status detail).toValue ≠ (Report.generic other path).toValue := by
  intro same
  rw [Report.toValue_ofHttp, Report.toValue_generic] at same
  by_cases missing : Status.code? status = some 404 <;> simp [missing] at same

theorem detail_of_ofHttp {path : String} {status : Value} {detail other : String}
    (same : (Report.ofHttp path status detail).toValue =
      (Report.ofHttp path status other).toValue) : detail = other := by
  rw [Report.toValue_ofHttp, Report.toValue_ofHttp] at same
  simpa using same

/-! ### Where serious answers come from -/

/-- Whatever comes of it without a fault is no server error. -/
def Mild (outcome : Outcome Answer) : Prop :=
  ∀ answer, outcome = .ok answer → ¬ Serious answer.status

theorem mild_error (fault : Fault) : Mild (.error fault) := by
  intro answer same
  cases same

theorem mild_of_status {outcome : Outcome Answer} {status : Value} (mild : ¬ Serious status)
    (known : ∀ answer, outcome = .ok answer → answer.status = status) : Mild outcome := by
  intro answer same serious
  rw [known answer same] at serious
  exact mild serious

theorem mild_ofData (value : Value) : Mild (Answer.ofData (.int 200) value) := by
  apply @mild_of_status _ (.int 200) (by decide +kernel)
  intro answer same
  unfold Answer.ofData at same
  split at same
  · rw [← Except.ok.inj same]
  · cases same

theorem mild_ofPage (page : Value) : Mild (Answer.ofPage page) := by
  apply @mild_of_status _ (.int 200) (by decide +kernel)
  intro answer same
  unfold Answer.ofPage at same
  split at same
  · split at same
    · cases same
    · rw [← Except.ok.inj same]
  · rw [← Except.ok.inj same]

theorem mild_bind {Result : Type} {outcome : Outcome Result} {next : Result → Outcome Answer}
    (mild : ∀ result, Mild (next result)) : Mild (outcome.bind next) := by
  cases outcome with
  | error fault => exact mild_error fault
  | ok result => exact mild result

theorem settle_error (incoming : Incoming) (fault : Fault) :
    (settle incoming (.error fault)).answer = answerTo incoming none fault := by
  rcases report_cases incoming.shownPath fault with ⟨other, failed, unexpected⟩ |
    ⟨made, -, -, answered⟩
  · simp [answerTo, settle, failed, report_unexpected unexpected, Except.bind]
  · have reported (answer : Answer) : report incoming.shownPath (.ok answer) = .ok answer := rfl
    simp only [answerTo, settle, answered, reported, Answer.sent, Except.bind]

theorem settle_mild {outcome : Outcome Answer} (mild : Mild outcome)
    (serious : Serious (settle incoming outcome).answer.status) :
    ∃ standIns fault, (settle incoming outcome).answer = answerTo incoming standIns fault := by
  cases outcome with
  | ok answer => exact absurd serious (mild answer rfl)
  | error fault => exact ⟨none, fault, settle_error incoming fault⟩

theorem settle_sent {outcome : Outcome Answer} {standIns : Option Text.StandIns}
    (mild : Mild outcome)
    (serious : Serious (settle incoming
      ((report incoming.shownPath outcome).bind (Answer.sent standIns))).answer.status) :
    ∃ standIns' fault, (settle incoming
      ((report incoming.shownPath outcome).bind (Answer.sent standIns))).answer =
        answerTo incoming standIns' fault := by
  cases outcome with
  | error fault => exact ⟨standIns, fault, rfl⟩
  | ok answer =>
      rcases sent_cases standIns answer with ⟨other, failed, -⟩ | ⟨content, sent⟩
      · refine ⟨none, other, ?_⟩
        simp only [report, Except.bind, failed]
        exact settle_error incoming other
      · simp only [report, Except.bind, sent, settle_ok] at serious
        exact absurd serious (mild answer rfl)

theorem mild_composePage (site : Site) (slug : String) (request : Request) :
    Mild (composePage site slug request) := by
  apply mild_bind
  intro page
  split
  · exact mild_error _
  · apply mild_bind
    intro context
    apply mild_bind
    intro composed
    exact mild_ofPage composed

theorem mild_ofBody (path : String) (fault : Incoming.BodyFault) :
    Mild (Answer.ofReport (.ofBody path fault)) := by
  have status : (Report.ofBody path fault).status = .int 422 ∨
      (Report.ofBody path fault).status = .int 400 := by
    cases fault with
    | unreadable => exact .inr rfl
    | _ => exact .inl rfl
  intro answer same serious
  rcases ofReport_cases (.ofBody path fault) with ⟨other, failed, -⟩ | ⟨-, answered⟩
  · rw [failed] at same
    cases same
  · rw [answered] at same
    obtain rfl := Except.ok.inj same
    simp only at serious
    rcases status with unprocessable | badRequest
    · rw [unprocessable] at serious
      exact absurd serious (by decide +kernel)
    · rw [badRequest] at serious
      exact absurd serious not_serious_badRequest

theorem renderSubmission_cases (site : Site) (incoming : Incoming) :
    Mild (renderSubmission site incoming).1 ∨
      ∃ standIns outcome, Mild outcome ∧ (renderSubmission site incoming).1 =
        (report incoming.shownPath outcome).bind (Answer.sent standIns) := by
  unfold renderSubmission
  split
  · exact .inl (mild_ofBody _ _)
  · rename_i body _
    right
    refine ⟨body.standIns, _, ?_, rfl⟩
    split
    · exact mild_error _
    · rename_i submission _
      exact mild_bind fun data => mild_ofData data
    · rename_i submission _
      apply @mild_of_status _ (.int 200) (by decide +kernel)
      intro answer same
      rcases rendered : (submission.toMarkup site.hub incoming.toRequest).1 with fault | markup
      · simp [rendered, Except.map] at same
      · simp only [rendered, Except.map, Except.ok.injEq] at same
        rw [← same]
        rfl

theorem respond_cases (site : Site) (incoming : Incoming) :
    Mild (respond site incoming).1 ∨
      ∃ standIns outcome, Mild outcome ∧ (respond site incoming).1 =
        (report incoming.shownPath outcome).bind (Answer.sent standIns) := by
  unfold respond
  split
  · left
    split
    · intro answer same
      rw [← Except.ok.inj same]
      decide +kernel
    · exact mild_error _
  · split
    · exact .inl (mild_error _)
    · split
      · exact .inl (mild_composePage site _ _)
      · exact renderSubmission_cases site incoming
      · exact .inl (mild_ofData (.object [("ok", .bool true)]))
      · left
        intro answer same
        rw [← Except.ok.inj same]
        decide +kernel

theorem serve_serious (site : Site) (serious : Serious (site.serve incoming).1.answer.status) :
    ∃ standIns fault, (site.serve incoming).1.answer = answerTo incoming standIns fault := by
  have served : (site.serve incoming).1 = settle incoming (respond site incoming).1 := rfl
  rw [served] at serious ⊢
  rcases respond_cases site incoming with mild | ⟨standIns, outcome, mild, responded⟩
  · exact settle_mild mild serious
  · rw [responded] at serious ⊢
    exact settle_sent mild serious

/-- An answer with a status of a server error depends on the status and the path and on nothing
else, unless it is to an HTTP error that was raised with such a status: this is answered with its
detail.  A site gives no other answers with such a status than to faults. -/
theorem serious_answers (incoming : Incoming) :
    (∀ standIns fault, Serious (answerTo incoming standIns fault).status → ¬ Outspoken fault →
        answerTo incoming standIns fault =
          genericAnswer incoming.shownPath (answerTo incoming standIns fault).status) ∧
      (∀ status detail, Outspoken (.http status detail) →
        answerTo incoming none (.http status detail) =
            ⟨status, .data (Report.ofHttp incoming.shownPath status detail).toValue⟩ ∧
          answerTo incoming none (.http status detail) ≠
            genericAnswer incoming.shownPath status ∧
          ∀ other, answerTo incoming none (.http status other) =
            answerTo incoming none (.http status detail) → other = detail) ∧
      ∀ site, Serious (serve site incoming).1.answer.status →
        ∃ standIns fault, (serve site incoming).1.answer = answerTo incoming standIns fault := by
  refine ⟨fun standIns fault => answerTo_generic, ?_, fun site => serve_serious site⟩
  rintro status detail ⟨_, _, same, serious, writable⟩
  obtain ⟨rfl, rfl⟩ := Fault.http.inj same
  have spoken (detail : String) := @answerTo_outspoken incoming status detail serious writable
  refine ⟨spoken detail, ?_, ?_⟩
  · rw [spoken detail]
    intro generic
    injection generic with _ content
    injection content with content
    exact ofHttp_ne_generic incoming.shownPath status status detail content
  · intro other alike
    rw [spoken other, spoken detail] at alike
    injection alike with _ content
    injection content with content
    exact detail_of_ofHttp content

/-- Two HTTP errors of one status are told apart by their answers. -/
theorem address_told :
    (answerTo ⟨"POST", "/v1/render", [], ""⟩ none
        (.http (.int 503) "postgres://admin:hunter2@db")).status = .int 503 ∧
      (answerTo ⟨"POST", "/v1/render", [], ""⟩ none (.http (.int 503) "Try later")).status =
        .int 503 ∧
      answerTo ⟨"POST", "/v1/render", [], ""⟩ none
          (.http (.int 503) "postgres://admin:hunter2@db") ≠
        answerTo ⟨"POST", "/v1/render", [], ""⟩ none (.http (.int 503) "Try later") := by
  refine ⟨?_, ?_, ?_⟩ <;> decide +kernel

end Site

end PageComposer
