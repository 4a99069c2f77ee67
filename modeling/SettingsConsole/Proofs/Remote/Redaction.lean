import SettingsConsole.Config.Basic
import SettingsConsole.Proofs.Remote.Masking
import SettingsConsole.Proofs.Remote.Request
import Mathlib.Data.List.TakeWhile

/-!
# What a log tells of the key of the session

The key stands in the last pair of the address of a request, and it is masked if there is a question
mark before it. There is none exactly if the endpoint has no fragment and a query of question marks
only, since these are dropped with the one before the query. Then the log shows the key.
-/

namespace SettingsConsole

open Text

namespace Endpoint

/-- An address without a fragment whose query is a sequence of question marks. -/
def OnlyQuestionMarks (u : Url) : Prop :=
  u.fragment = none ∧ ∃ q, u.query = some q ∧ q ≠ "" ∧ ∀ c ∈ q.toList, c = '?'

/-- Nothing is left of a text without question marks at its end if it holds nothing else. -/
theorem dropQuestionMarks_eq_empty_iff (s : String) :
    dropQuestionMarks s = "" ↔ ∀ c ∈ s.toList, c = '?' := by
  rw [dropQuestionMarks, String.ofList_eq_empty_iff, List.reverse_eq_nil_iff,
    List.dropWhile_eq_nil_iff]
  simp

/-- The address of a request has a question mark, except if the query of the endpoint is a sequence
of question marks that is dropped. -/
theorem mem_requestUrl_iff {text : String} {key : Option String} {e : Endpoint}
    (h : build text key = .ok e) (op : Operation) (p : Params) :
    '?' ∈ (e.requestUrl op p).toList ↔ ¬ OnlyQuestionMarks e.url := by
  have hu : e.url.WellFormed := (of_build h).1
  have hpayload := Query.disjoint_write (sent op p key)
  rw [requestUrl_eq h, ← toText_requestAddress hu,
    (wellFormed_requestAddress hu hpayload).mem_toText_iff]
  unfold OnlyQuestionMarks requestAddress
  cases hfragment : e.url.fragment with
  | some f =>
    refine iff_of_true ?_ (by simp)
    cases hquery : e.url.query with
    | none => exact .inr ⟨_, rfl, by simp [separator, hquery]⟩
    | some q => exact .inl rfl
  | none =>
    cases hquery : e.url.query with
    | none => simp
    | some q =>
      by_cases hempty : q = ""
      · simp [hempty]
      · by_cases hmarks : dropQuestionMarks q = ""
        · have hall := (dropQuestionMarks_eq_empty_iff q).mp hmarks
          simpa [hempty, hmarks, hfragment] using hall
        · have hall : ¬ ∀ c ∈ q.toList, c = '?' := (dropQuestionMarks_eq_empty_iff q).not.mp hmarks
          simpa [hempty, hmarks] using hall

/-- What a log shows of a request with a key, if there is a question mark before the key. -/
theorem query_requestUrl_of_mem {e : Endpoint} {key : String} (hkey : e.sessionKey = some key)
    {op : Operation} {p : Params} (hmark : '?' ∈ (requestUrl ⟨e.url, none⟩ op p).toList) :
    Redaction.query (e.requestUrl op p) =
      Redaction.query (requestUrl ⟨e.url, none⟩ op p) ++ "&sessionkey=***" := by
  have hkeyText : keyText (some key) = "&" ++ ("sessionkey" ++ "=" ++ Percent.encode key) := by
    simp only [keyText, ← String.append_assoc]
    rfl
  have hamp : '&' ∉ ("sessionkey" ++ "=" ++ Percent.encode key).toList := by
    have hencode := Percent.not_mem_encode (c := '&') (by decide) rfl key
    simpa using hencode
  rw [requestUrl_eq_append_keyText, hkey, hkeyText, ← String.append_assoc,
    Redaction.query_append_pair hmark hamp, Redaction.pair_of_secret (by decide) (by decide),
    String.append_assoc]
  rfl

/-- An endpoint with a key that is not blank has the address of the endpoint without a key. -/
theorem build_none_of_build {text key : String} {e : Endpoint} (h : build text (some key) = .ok e)
    (hkey : trim key ≠ "") : build text none = .ok ⟨e.url, none⟩ ∧ e.sessionKey = some key := by
  refine ⟨?_, (of_build h).2.trans (unlessBlank_of_ne hkey)⟩
  unfold build at h ⊢
  split at h
  · cases h
  · cases h
  · cases h
    rfl

/-- Diagnostics show of a key only that there is one. -/
theorem debugText_eq {e₁ e₂ : Endpoint} {k₁ k₂ : String} (hurl : e₂.url = e₁.url)
    (hkey₁ : e₁.sessionKey = some k₁) (hkey₂ : e₂.sessionKey = some k₂) :
    e₁.debugText = e₂.debugText := by
  obtain ⟨url, _⟩ := e₁
  obtain ⟨_, _⟩ := e₂
  obtain rfl := hurl
  obtain rfl := hkey₁
  obtain rfl := hkey₂
  rfl

/-- The lines that a log shows of a request to two endpoints are the same exactly if the addresses
in them are. -/
theorem logLine_eq_iff (e₁ e₂ : Endpoint) (op : Operation) (p : Params) :
    e₁.logLine op p = e₂.logLine op p ↔
      Redaction.query (e₁.requestUrl op p) = Redaction.query (e₂.requestUrl op p) :=
  String.append_right_inj _

/-- Whatever is requested, two endpoints at one address with different keys that are not blank show
the same in the log of the request exactly if the query of the address is no sequence of question
marks without a fragment after it. So it is for the address, and for the line around it. In
diagnostics the endpoints never differ, and neither do two configurations with these keys. -/
theorem query_requestUrl_eq_iff {text k₁ k₂ : String} {e₁ e₂ : Endpoint}
    (h₁ : build text (some k₁) = .ok e₁) (h₂ : build text (some k₂) = .ok e₂)
    (hk₁ : trim k₁ ≠ "") (hk₂ : trim k₂ ≠ "") (op : Operation) (p : Params) :
    (Redaction.query (e₁.requestUrl op p) = Redaction.query (e₂.requestUrl op p) ↔
        k₁ = k₂ ∨ ¬ OnlyQuestionMarks e₁.url) ∧
      (e₁.logLine op p = e₂.logLine op p ↔ k₁ = k₂ ∨ ¬ OnlyQuestionMarks e₁.url) ∧
      e₁.debugText = e₂.debugText ∧
      ∀ c : Config, { c with sessionKey := some k₁ }.debugText =
        { c with sessionKey := some k₂ }.debugText := by
  obtain ⟨hnone, hkey₁⟩ := build_none_of_build h₁ hk₁
  obtain ⟨hnone₂, hkey₂⟩ := build_none_of_build h₂ hk₂
  have hurl : e₂.url = e₁.url := by
    rw [hnone] at hnone₂
    exact (congrArg url (Except.ok.inj hnone₂)).symm
  have hurls : Redaction.query (e₁.requestUrl op p) = Redaction.query (e₂.requestUrl op p) ↔
      k₁ = k₂ ∨ ¬ OnlyQuestionMarks e₁.url := by
    by_cases hmarks : OnlyQuestionMarks e₁.url
    · -- Nothing is masked, and different keys are encoded differently.
      have hshown₁ : '?' ∉ (e₁.requestUrl op p).toList := by
        rw [mem_requestUrl_iff h₁]
        exact not_not.mpr hmarks
      have hshown₂ : '?' ∉ (e₂.requestUrl op p).toList := by
        rw [mem_requestUrl_iff h₂, hurl]
        exact not_not.mpr hmarks
      rw [Redaction.query_of_not_mem hshown₁, Redaction.query_of_not_mem hshown₂,
        requestUrl_eq_append_keyText, requestUrl_eq_append_keyText e₂, hurl, hkey₁, hkey₂]
      simp [keyText, hmarks, Percent.encode_injective.eq_iff]
    · have hmark : '?' ∈ (requestUrl ⟨e₁.url, none⟩ op p).toList :=
        (mem_requestUrl_iff hnone op p).mpr hmarks
      refine iff_of_true ?_ (.inr hmarks)
      rw [query_requestUrl_of_mem hkey₁ hmark, query_requestUrl_of_mem hkey₂ (hurl ▸ hmark), hurl]
  exact ⟨hurls, (logLine_eq_iff e₁ e₂ op p).trans hurls, debugText_eq hurl hkey₁ hkey₂,
    fun _ => rfl⟩

/-- At an ordinary address the log of a request shows nothing of the key. -/
theorem query_requestUrl_eq_ordinary :
    ∃ e₁ e₂, build "http://mgmt.test:8080/client/api" (some "alpha") = .ok e₁ ∧
      build "http://mgmt.test:8080/client/api" (some "beta") = .ok e₂ ∧
      Redaction.query (e₁.requestUrl .listSettings Dict.empty) =
        Redaction.query (e₂.requestUrl .listSettings Dict.empty) := by
  have halpha : build "http://mgmt.test:8080/client/api" (some "alpha") =
      .ok ⟨⟨.http, "", "mgmt.test", some 8080, "/client/api", none, none⟩, some "alpha"⟩ := rfl
  have hbeta : build "http://mgmt.test:8080/client/api" (some "beta") =
      .ok ⟨⟨.http, "", "mgmt.test", some 8080, "/client/api", none, none⟩, some "beta"⟩ := rfl
  have hmarks : ¬ OnlyQuestionMarks
      ⟨.http, "", "mgmt.test", some 8080, "/client/api", none, none⟩ := by
    rintro ⟨-, q, hq, -⟩
    cases hq
  exact ⟨_, _, halpha, hbeta, (query_requestUrl_eq_iff halpha hbeta (by decide) (by decide)
    .listSettings Dict.empty).1.mpr (.inr hmarks)⟩

/-- At an address whose query is a question mark the log of a request shows the key. -/
theorem query_requestUrl_ne_question_marks :
    ∃ e₁ e₂, build "http://mgmt.test:8080/client/api??" (some "alpha") = .ok e₁ ∧
      build "http://mgmt.test:8080/client/api??" (some "beta") = .ok e₂ ∧
      Redaction.query (e₁.requestUrl .listSettings Dict.empty) ≠
        Redaction.query (e₂.requestUrl .listSettings Dict.empty) := by
  refine ⟨⟨⟨.http, "", "mgmt.test", some 8080, "/client/api", some "?", none⟩, some "alpha"⟩,
    ⟨⟨.http, "", "mgmt.test", some 8080, "/client/api", some "?", none⟩, some "beta"⟩, rfl, rfl, ?_⟩
  decide +kernel

end Endpoint

end SettingsConsole
