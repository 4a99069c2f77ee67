import SettingsConsole.Proofs.Json.Order
import SettingsConsole.Proofs.Remote.Decoding
import SettingsConsole.Remote.Response

/-!
# What a response stands for

A body reports an error in an object inside of its document; of several such objects, the one with
the least key counts. With this, status and body decide what a response stands for: the document, or
an error that names the operation. The same report is found whether the status fails or not.
-/

namespace SettingsConsole

/-- A text is given by one value only. -/
theorem Json.text?_eq_some_iff {v : Json} {s : String} : v.text? = some s ↔ v = .str s := by
  cases v <;> simp [text?]

/-! ## Reports -/

namespace ServerError

/-- The members of an object give an error: its text, and its code if there is one of 32 bits. -/
structure GivenBy (e : ServerError) (ms : List (String × Json)) : Prop where
  text : ("errortext", .str e.text) ∈ ms
  code (n : UInt32) : e.code = some n ↔ ("errorcode", .int n.toNat) ∈ ms

/-- A document reports an error: an object in it gives the error, and every object in it that gives
a text has at least the key of this one. -/
def ReportedIn (e : ServerError) (v : Json) : Prop :=
  ∃ ms key inner, v = .obj ms ∧ (key, .obj inner) ∈ ms ∧ e.GivenBy inner ∧
    ∀ other ms' text, (other, .obj ms') ∈ ms → ("errortext", .str text) ∈ ms' → key ≤ other

/-- A body is a document that reports an error. -/
def Reported (e : ServerError) (body : String) : Prop :=
  ∃ v, Json.parse? body = some v ∧ e.ReportedIn v

/-- The code that is read from the members of an object is the one that they give. -/
theorem code_eq_some_iff {ms : List (String × Json)} (hsorted : ms.Pairwise fun a b => a.1 < b.1)
    {n : UInt32} :
    (ms.lookup "errorcode").bind Json.word32? = some n ↔ ("errorcode", .int n.toNat) ∈ ms := by
  simp only [Option.bind_eq_some_iff, Json.word32?_eq_some_iff, exists_eq_right,
    Json.lookup_eq_some_iff_mem hsorted]

/-- An object gives one error only, and it is the one that is found. -/
theorem ofEnvelope?_obj_eq_some_iff {ms : List (String × Json)}
    (hsorted : ms.Pairwise fun a b => a.1 < b.1) {e : ServerError} :
    ofEnvelope? (.obj ms) = some e ↔ e.GivenBy ms := by
  obtain ⟨code, text⟩ := e
  have hfound : ofEnvelope? (.obj ms) = some ⟨code, text⟩ ↔
      ("errortext", .str text) ∈ ms ∧ (ms.lookup "errorcode").bind Json.word32? = code := by
    simp [ofEnvelope?, Json.get?, Json.text?_eq_some_iff, Json.lookup_eq_some_iff_mem hsorted,
      Option.bind_eq_some_iff]
  rw [hfound]
  constructor
  · rintro ⟨htext, rfl⟩
    exact ⟨htext, fun _ => code_eq_some_iff hsorted⟩
  · intro h
    exact ⟨h.text, Option.ext fun n => (code_eq_some_iff hsorted).trans (h.code n).symm⟩

/-- In a member of an ordered object, an error is found exactly if the member is an object that
gives it. -/
theorem ofEnvelope?_eq_some_iff {v : Json} (hv : v.Ordered) {e : ServerError} :
    ofEnvelope? v = some e ↔ ∃ ms, v = .obj ms ∧ e.GivenBy ms := by
  cases hv with
  | obj hsorted _ => simp [ofEnvelope?_obj_eq_some_iff hsorted]
  | _ => simp [ofEnvelope?, Json.get?]

/-- An error is found in an object that gives a text. -/
theorem exists_ofEnvelope? {ms : List (String × Json)} (hms : (Json.obj ms).Ordered) {text : String}
    (htext : ("errortext", .str text) ∈ ms) : ∃ e, ofEnvelope? (.obj ms) = some e := by
  cases hms with
  | obj hsorted _ =>
    refine ⟨⟨(ms.lookup "errorcode").bind Json.word32?, text⟩, ?_⟩
    exact (ofEnvelope?_obj_eq_some_iff hsorted).mpr ⟨htext, fun _ => code_eq_some_iff hsorted⟩

/-- The error that is found in a document is the one that it reports. -/
theorem find?_eq_some_iff {v : Json} (hv : v.Ordered) {e : ServerError} :
    find? v = some e ↔ e.ReportedIn v := by
  cases hv with
  | @obj ms hsorted hmembers =>
    have hfind : find? (.obj ms) = ms.findSome? fun m => ofEnvelope? m.2 := rfl
    rw [hfind, Json.findSome?_eq_some_iff_least hsorted]
    constructor
    · rintro ⟨key, v, hmem, hfound, hleast⟩
      obtain ⟨inner, rfl, he⟩ := (ofEnvelope?_eq_some_iff (hmembers _ hmem)).mp hfound
      refine ⟨ms, key, inner, rfl, hmem, he, fun other ms' text hother htext => ?_⟩
      obtain ⟨e', he'⟩ := exists_ofEnvelope? (hmembers _ hother) htext
      exact hleast other _ e' hother he'
    · rintro ⟨_, key, inner, ⟨rfl⟩, hmem, he, hleast⟩
      have hfound := (ofEnvelope?_eq_some_iff (hmembers _ hmem)).mpr ⟨inner, rfl, he⟩
      refine ⟨key, _, hmem, hfound, fun other w e' hother he' => ?_⟩
      obtain ⟨ms', rfl, hgiven⟩ := (ofEnvelope?_eq_some_iff (hmembers _ hother)).mp he'
      exact hleast other ms' e'.text hother hgiven.text
  | _ => simp [find?, Json.members?, ReportedIn]

/-- The error that is found in a body is the one that it reports. -/
theorem parse?_bind_find?_eq_some_iff {body : String} {e : ServerError} :
    (Json.parse? body).bind find? = some e ↔ e.Reported body := by
  rw [Option.bind_eq_some_iff]
  exact exists_congr fun v => and_congr_right fun hbody =>
    find?_eq_some_iff (Json.ordered_of_parse? hbody)

/-- Nothing is found in a body that reports nothing. -/
theorem parse?_bind_find?_eq_none {body : String} (h : ∀ e, ¬ Reported e body) :
    (Json.parse? body).bind find? = none :=
  Option.eq_none_iff_forall_ne_some.mpr fun e he => h e (parse?_bind_find?_eq_some_iff.mp he)

end ServerError

/-! ## Status and body -/

namespace Response

open ServerError (Reported)

/-- What a status and a body stand for, with the detail of what is wrong with a body that is no
document. -/
inductive Stands (operation : String) (status : UInt16) (body detail : String) :
    Except RemoteError Json → Prop where
  /-- The document in the body. -/
  | document {v : Json} (hstatus : status < 400) (hbody : Json.parse? body = some v)
      (hreport : ∀ e, ¬ Reported e body) : Stands operation status body detail (.ok v)
  /-- A body that is no document. -/
  | unreadable (hstatus : status < 400) (hbody : Json.parse? body = none) :
      Stands operation status body detail (.error (.parse operation detail))
  /-- A report, though the status does not fail. -/
  | report {e : ServerError} (hstatus : status < 400) (hreport : Reported e body) :
      Stands operation status body detail (.error (.api operation status e.code e.text))
  /-- A missing session, with a report. -/
  | refusedReport {e : ServerError} (hsession : status = 401 ∨ status = 432)
      (hreport : Reported e body) :
      Stands operation status body detail (.error (.unauthorized operation (some e.text)))
  /-- A missing session, without a report. -/
  | refused (hsession : status = 401 ∨ status = 432) (hreport : ∀ e, ¬ Reported e body) :
      Stands operation status body detail (.error (.unauthorized operation none))
  /-- Any other failing status, with a report. -/
  | failureReport {e : ServerError} (hstatus : 400 ≤ status)
      (hsession : ¬ (status = 401 ∨ status = 432)) (hreport : Reported e body) :
      Stands operation status body detail (.error (.api operation status e.code e.text))
  /-- Any other failing status, without a report. -/
  | failure (hstatus : 400 ≤ status) (hsession : ¬ (status = 401 ∨ status = 432))
      (hreport : ∀ e, ¬ Reported e body) :
      Stands operation status body detail
        (.error (.api operation status none (Text.excerpt body)))

/-- The statuses for a missing session are these two. -/
theorem unauthorizedStatuses_contains_iff (status : UInt16) :
    unauthorizedStatuses.contains status = true ↔ status = 401 ∨ status = 432 := by
  simp [unauthorizedStatuses]

/-- The statuses for a missing session fail. -/
theorem failing_of_session {status : UInt16} (h : status = 401 ∨ status = 432) : 400 ≤ status := by
  rcases h with rfl | rfl <;> decide

variable {operation body detail : String} {status : UInt16}

/-- The error of a failing status shows the report of the body. -/
theorem statusError_of_reported {e : ServerError} (hreport : Reported e body) :
    statusError operation status body =
      if status = 401 ∨ status = 432 then .unauthorized operation (some e.text)
      else .api operation status e.code e.text := by
  simp only [statusError, ServerError.parse?_bind_find?_eq_some_iff.mpr hreport,
    unauthorizedStatuses_contains_iff, Option.map_some, ServerError.toRemote]

/-- Without a report, the error of a failing status shows an excerpt of the body. -/
theorem statusError_of_not_reported (hreport : ∀ e, ¬ Reported e body) :
    statusError operation status body =
      if status = 401 ∨ status = 432 then .unauthorized operation none
      else .api operation status none (Text.excerpt body) := by
  simp only [statusError, ServerError.parse?_bind_find?_eq_none hreport,
    unauthorizedStatuses_contains_iff, Option.map_none]

/-- A failing status gives its error, whatever the body is. -/
theorem check_of_failing (hstatus : 400 ≤ status) :
    check operation status body = .error (statusError operation status body) :=
  if_pos hstatus

/-- A response gives what it stands for. -/
theorem check_of_stands {r : Except RemoteError Json}
    (h : Stands operation status body malformed r) : check operation status body = r := by
  cases h with
  | @document v hstatus hbody hreport =>
    have hfind := ServerError.parse?_bind_find?_eq_none hreport
    rw [hbody, Option.bind_some] at hfind
    simp only [check, if_neg (UInt16.not_le.mpr hstatus), hbody, hfind]
  | unreadable hstatus hbody =>
    simp only [check, if_neg (UInt16.not_le.mpr hstatus), hbody]
  | @report e hstatus hreport =>
    obtain ⟨v, hbody, hv⟩ := hreport
    have hfind := (ServerError.find?_eq_some_iff (Json.ordered_of_parse? hbody)).mpr hv
    simp only [check, if_neg (UInt16.not_le.mpr hstatus), hbody, hfind, ServerError.toRemote]
  | refusedReport hsession hreport =>
    rw [check_of_failing (failing_of_session hsession), statusError_of_reported hreport,
      if_pos hsession]
  | refused hsession hreport =>
    rw [check_of_failing (failing_of_session hsession), statusError_of_not_reported hreport,
      if_pos hsession]
  | failureReport hstatus hsession hreport =>
    rw [check_of_failing hstatus, statusError_of_reported hreport, if_neg hsession]
  | failure hstatus hsession hreport =>
    rw [check_of_failing hstatus, statusError_of_not_reported hreport, if_neg hsession]

/-- Every response stands for something. -/
theorem exists_stands (operation : String) (status : UInt16) (body detail : String) :
    ∃ r, Stands operation status body detail r := by
  by_cases hreport : ∃ e, Reported e body
  · obtain ⟨e, he⟩ := hreport
    by_cases hstatus : status < 400
    · exact ⟨_, .report hstatus he⟩
    · by_cases hsession : status = 401 ∨ status = 432
      · exact ⟨_, .refusedReport hsession he⟩
      · exact ⟨_, .failureReport (UInt16.not_lt.mp hstatus) hsession he⟩
  · have hnone : ∀ e, ¬ Reported e body := not_exists.mp hreport
    by_cases hstatus : status < 400
    · cases hbody : Json.parse? body with
      | none => exact ⟨_, .unreadable hstatus hbody⟩
      | some v => exact ⟨_, .document hstatus hbody hnone⟩
    · by_cases hsession : status = 401 ∨ status = 432
      · exact ⟨_, .refused hsession hnone⟩
      · exact ⟨_, .failure (UInt16.not_lt.mp hstatus) hsession hnone⟩

/-- A response gives exactly what it stands for. -/
theorem check_eq_iff (operation : String) (status : UInt16) (body : String)
    (r : Except RemoteError Json) :
    check operation status body = r ↔ Stands operation status body malformed r := by
  refine ⟨?_, check_of_stands⟩
  intro h
  obtain ⟨r', hr'⟩ := exists_stands operation status body malformed
  rw [← h, check_of_stands hr']
  exact hr'

/-- An error names the operation. -/
theorem Stands.operation_eq {e : RemoteError}
    (h : Stands operation status body detail (.error e)) : e.operation = operation := by
  cases h <;> rfl

/-- Under a status that does not fail, a server error is a report. -/
theorem Stands.reported {code : Option UInt32} {text : String} (hstatus : status < 400)
    (h : Stands operation status body detail (.error (.api operation status code text))) :
    Reported ⟨code, text⟩ body := by
  cases h with
  | report _ hreport => exact hreport
  | failureReport hfails _ hreport => exact hreport
  | failure hfails => exact absurd hstatus (UInt16.not_lt.mpr hfails)

/-- Every response stands for exactly one thing, and gives it, with some detail of what is wrong if
the body is no document; an error names the operation. The report that is found under a status that
does not fail is found under every failing status. -/
theorem check_classifies (operation : String) (status : UInt16) (body : String) :
    (∃ detail, ∀ r,
        check operation status body = r ↔ Stands operation status body detail r) ∧
      (∀ e, check operation status body = .error e → e.operation = operation) ∧
      ∀ code text, status < 400 →
        check operation status body = .error (.api operation status code text) →
        ∀ failing, 400 ≤ failing →
          check operation failing body =
            .error (if failing = 401 ∨ failing = 432 then .unauthorized operation (some text)
              else .api operation failing code text) := by
  refine ⟨⟨malformed, check_eq_iff operation status body⟩, fun e he => ?_,
    fun code text hstatus h => ?_⟩
  · exact ((check_eq_iff operation status body _).mp he).operation_eq
  · intro failing hfails
    have hreport := ((check_eq_iff operation status body _).mp h).reported hstatus
    rw [check_of_failing hfails, statusError_of_reported hreport]

/-- A code that is given as a text is none, under a status that does not fail and so under one that
fails. -/
theorem check_classifies_text_code :
    check "updateConfiguration" 530
        "\x7b\"r\":\x7b\"errorcode\":\"431\",\"errortext\":\"no\"\x7d\x7d" =
      .error (.api "updateConfiguration" 530 none "no") := by
  have hreport : Reported ⟨none, "no"⟩
      "\x7b\"r\":\x7b\"errorcode\":\"431\",\"errortext\":\"no\"\x7d\x7d" :=
    ServerError.parse?_bind_find?_eq_some_iff.mp (by decide +kernel)
  have hfails := (check_classifies "updateConfiguration" 200 _).2.2 none "no" (by decide)
    (check_of_stands (.report (by decide) hreport)) 530 (by decide)
  rwa [if_neg (by decide)] at hfails

end Response

end SettingsConsole
