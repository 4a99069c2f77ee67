import SettingsConsole.Proofs.Remote.Query
import SettingsConsole.Proofs.Text.Blank
import SettingsConsole.Proofs.Url.Parts
import SettingsConsole.Remote.Endpoint

/-!
# The address of a request

The address of a request is made by appending text to the text of the endpoint, less the question
marks at its end. Here it is shown which address that text stands for. It is the one that is meant,
with the parameters after the query of the endpoint, exactly if the endpoint has no fragment and a
query that does not end with a question mark: the parameters would become part of the fragment, or
the question mark that is dropped would be part of the query.
-/

namespace SettingsConsole

open Text

namespace Endpoint

/-- The pairs that a request sends: the command, the form of the answer, the parameters, and the key
of the session unless it is blank. -/
def sent (op : Operation) (p : Params) (key : Option String) : List (String × String) :=
  [("command", op.name), ("response", "json")] ++ p.pairs ++
    (key.toList.filter fun key => trim key ≠ "").map fun key => ("sessionkey", key)

/-- The pieces of the query that an endpoint has of its own. -/
def ownPieces (u : Url) : List String :=
  match u.query with
  | some q => if q = "" then [] else split '&' q
  | none => []

/-- The text of an address carries pairs to an endpoint: scheme, authority and path are those of the
endpoint, and its query is that of the endpoint, unchanged, followed by the pairs. -/
def Carries (u : Url) (pairs : List (String × String)) (text : String) : Prop :=
  let parts := Url.Parts.ofText text
  parts.scheme = u.scheme.name ∧ parts.authority = u.authorityText ∧ parts.path = u.path ∧
    ∃ q pieces, parts.query = some q ∧ split '&' q = ownPieces u ++ pieces ∧
      pieces.map Query.readPair = pairs.map some

/-! ## Question marks at the end -/

/-- Question marks at the end of the second of two texts reach into the first one only if there is
nothing else in the second one. -/
theorem dropQuestionMarks_append (s t : String) :
    dropQuestionMarks (s ++ t) =
      if dropQuestionMarks t = "" then dropQuestionMarks s else s ++ dropQuestionMarks t := by
  have hempty : dropQuestionMarks t = "" ↔ (t.toList.reverse.dropWhile (· == '?')).isEmpty := by
    rw [dropQuestionMarks, String.ofList_eq_empty_iff, List.reverse_eq_nil_iff, List.isEmpty_iff]
  simp only [hempty]
  simp only [dropQuestionMarks, String.toList_append, List.reverse_append, List.dropWhile_append]
  split
  · rfl
  · rw [List.reverse_append, List.reverse_reverse, String.ofList_append, String.ofList_toList]

/-- A text keeps all of it exactly if it does not end with a question mark. -/
theorem dropQuestionMarks_eq_self_iff (s : String) :
    dropQuestionMarks s = s ↔ s.toList.getLast? ≠ some '?' := by
  have hchars (cs : List Char) : cs.dropWhile (· == '?') = cs ↔ cs.head? ≠ some '?' := by
    cases cs with
    | nil => simp
    | cons c cs =>
      by_cases hc : c = '?'
      · have hlength : cs.dropWhile (· == '?') ≠ '?' :: cs := fun h => by
          have hle := (List.dropWhile_sublist (· == '?') (l := cs)).length_le
          rw [h, List.length_cons] at hle
          omega
        simpa [hc] using hlength
      · simp [hc]
  rw [List.getLast?_eq_head?_reverse, ← hchars, ← String.toList_inj, dropQuestionMarks,
    String.toList_ofList, List.reverse_eq_iff]

/-- Dropping question marks adds no character. -/
theorem mem_of_mem_dropQuestionMarks {s : String} {c : Char}
    (h : c ∈ (dropQuestionMarks s).toList) : c ∈ s.toList := by
  rw [dropQuestionMarks, String.toList_ofList, List.mem_reverse] at h
  exact List.mem_reverse.mp ((List.dropWhile_sublist _).mem h)

/-- A text without question marks keeps all of it. -/
theorem dropQuestionMarks_of_not_mem {s : String} (h : '?' ∉ s.toList) :
    dropQuestionMarks s = s :=
  (dropQuestionMarks_eq_self_iff s).mpr fun hlast => h (List.mem_of_getLast? hlast)

/-- A sign in front of a text that is no question mark stays. -/
theorem dropQuestionMarks_hash_append (s : String) :
    dropQuestionMarks ("#" ++ s) = "#" ++ dropQuestionMarks s := by
  rw [dropQuestionMarks_append]
  split
  · next h => rw [h]; decide
  · rfl

/-! ## The text of a request -/

/-- An endpoint that is built is well-formed and keeps its key unless it is blank. -/
theorem of_build {text : String} {key : Option String} {e : Endpoint}
    (h : build text key = .ok e) : e.url.WellFormed ∧ e.sessionKey = key.bind unlessBlank := by
  unfold build at h
  split at h
  · cases h
  · cases h
  · next url hurl =>
    cases h
    exact ⟨Url.wellFormed_of_parse hurl, rfl⟩

/-- What stands for the key of the session at the end of a request. -/
def keyText : Option String → String
  | some key => "&sessionkey=" ++ Percent.encode key
  | none => ""

/-- The key of the session is appended to the request without a key. -/
theorem requestUrl_eq_append_keyText (e : Endpoint) (op : Operation) (p : Params) :
    e.requestUrl op p = requestUrl ⟨e.url, none⟩ op p ++ keyText e.sessionKey := by
  unfold requestUrl keyText
  cases e.sessionKey <;> simp only [separator, String.append_empty]

/-- The key of the session is a pair of its own, unless it is blank. -/
theorem keyText_eq_write (key : Option String) :
    keyText (key.bind unlessBlank) =
      let pairs := (key.toList.filter fun key => trim key ≠ "").map fun key => ("sessionkey", key)
      if pairs = [] then "" else "&" ++ Query.write pairs := by
  have hname : "&sessionkey=" = "&" ++ (Percent.encode "sessionkey" ++ "=") := by decide +kernel
  cases key with
  | none => rfl
  | some key =>
    by_cases hblank : trim key = ""
    · simp [keyText, unlessBlank_of_eq hblank, hblank]
    · simp [keyText, unlessBlank_of_ne hblank, hblank, Query.write, Query.writePair, join, hname,
        String.append_assoc]

/-- The address of a request is the text of the endpoint, less question marks at its end, and a
separator and the pairs after it. -/
theorem requestUrl_eq {text : String} {key : Option String} {e : Endpoint}
    (h : build text key = .ok e) (op : Operation) (p : Params) :
    e.requestUrl op p =
      dropQuestionMarks e.url.toText ++ (e.separator ++ Query.write (sent op p key)) := by
  have hcommand : Query.write [("command", op.name), ("response", "json")] =
      "command=" ++ Percent.encode op.name ++ "&response=json" := by
    have hname : Percent.encode "command" ++ "=" = "command=" := by decide +kernel
    have hrest : "&" ++ Query.writePair ("response", "json") = "&response=json" := by decide +kernel
    rw [← hname, ← hrest, ← String.append_assoc]
    rfl
  have hparams : (if p.isEmpty then "" else "&" ++ p.toQuery) =
      if p.pairs = [] then "" else "&" ++ Query.write p.pairs := by
    have hempty : p.isEmpty = true ↔ p.pairs = [] := by
      rw [Dict.isEmpty, Params.pairs, List.map_eq_nil_iff, List.isEmpty_iff]
    simp only [hempty, p.toQuery_eq_write]
  rw [requestUrl_eq_append_keyText, (of_build h).2, keyText_eq_write, sent,
    Query.write_append (by simp), Query.write_append (by simp), hcommand, ← hparams]
  simp only [requestUrl, separator, String.append_assoc, String.append_empty]

/-- The text of an endpoint with a fragment loses question marks of the fragment only. -/
theorem dropQuestionMarks_toText_of_fragment {u : Url} {f : String} (h : u.fragment = some f) :
    dropQuestionMarks u.toText =
      u.origin ++ u.path ++ u.queryText ++ ("#" ++ dropQuestionMarks f) := by
  have hne : "#" ++ dropQuestionMarks f ≠ "" := by simp
  rw [Url.toText, h, dropQuestionMarks_append, dropQuestionMarks_hash_append, if_neg hne]

/-- The text of an endpoint without a fragment loses question marks of the query only, and with all
of the query also the one before it. -/
theorem dropQuestionMarks_toText {u : Url} (hu : u.WellFormed) (h : u.fragment = none) :
    dropQuestionMarks u.toText =
      match u.query with
      | none => u.origin ++ u.path
      | some q =>
        if dropQuestionMarks q = "" then u.origin ++ u.path
        else u.origin ++ u.path ++ ("?" ++ dropQuestionMarks q) := by
  have hbase : dropQuestionMarks (u.origin ++ u.path) = u.origin ++ u.path :=
    dropQuestionMarks_of_not_mem (hu.disjoint_base (by simp))
  have hmark : dropQuestionMarks "?" = "" := by decide
  rw [Url.toText, h, String.append_empty, Url.queryText]
  cases u.query with
  | none => rw [String.append_empty, hbase]
  | some q =>
    simp only [dropQuestionMarks_append _ ("?" ++ q), dropQuestionMarks_append "?" q, hmark, hbase]
    split
    · rfl
    · rw [if_neg (by simp)]

/-- The address that the text of a request stands for, with this query for the request. After a
fragment the query becomes part of it, and after a query of question marks part of the path. -/
def requestAddress (e : Endpoint) (payload : String) : Url :=
  match e.url.fragment with
  | some f => { e.url with fragment := some (dropQuestionMarks f ++ (e.separator ++ payload)) }
  | none =>
    match e.url.query with
    | none => { e.url with query := some payload }
    | some q =>
      if q = "" then { e.url with query := some payload }
      else if dropQuestionMarks q = "" then
        { e.url with path := e.url.path ++ "&" ++ payload, query := none }
      else { e.url with query := some (dropQuestionMarks q ++ "&" ++ payload) }

/-- The text of a request is the text of the address that it stands for. -/
theorem toText_requestAddress {e : Endpoint} (hu : e.url.WellFormed) (payload : String) :
    (e.requestAddress payload).toText =
      dropQuestionMarks e.url.toText ++ (e.separator ++ payload) := by
  unfold requestAddress
  cases hfragment : e.url.fragment with
  | some f =>
    rw [dropQuestionMarks_toText_of_fragment hfragment]
    simp only [Url.toText, Url.origin, Url.queryText, String.append_assoc]
  | none =>
    rw [dropQuestionMarks_toText hu hfragment]
    cases hquery : e.url.query with
    | none =>
      simp [Url.toText, Url.origin, Url.queryText, separator, hfragment, hquery,
        String.append_assoc]
    | some q =>
      by_cases hempty : q = ""
      · have hmarks : dropQuestionMarks "" = "" := rfl
        simp [Url.toText, Url.origin, Url.queryText, separator, hfragment, hquery, hempty, hmarks,
          String.append_assoc]
      · by_cases hmarks : dropQuestionMarks q = ""
        · simp [Url.toText, Url.origin, Url.queryText, separator, hfragment, hquery, hempty, hmarks,
            String.append_assoc]
        · simp [Url.toText, Url.origin, Url.queryText, separator, hfragment, hquery, hempty, hmarks,
            String.append_assoc]

/-- The address that the text of a request stands for is well-formed. -/
theorem wellFormed_requestAddress {e : Endpoint} (hu : e.url.WellFormed) {payload : String}
    (hpayload : ['?', '#'].Disjoint payload.toList) : (e.requestAddress payload).WellFormed := by
  have hhash : '#' ∉ payload.toList := hpayload (by simp)
  have hquery {q : String} (hq : '#' ∉ q.toList) :
      ({ e.url with query := some q } : Url).WellFormed :=
    ⟨hu.userinfo, hu.host, hu.rooted, hu.path, fun _ h => Option.some.inj h ▸ hq⟩
  unfold requestAddress
  cases e.url.fragment with
  | some f => exact ⟨hu.userinfo, hu.host, hu.rooted, hu.path, hu.query⟩
  | none =>
    cases hown : e.url.query with
    | none => exact hquery hhash
    | some q =>
      dsimp only
      split
      · exact hquery hhash
      · split
        · obtain ⟨rest, hrest⟩ := hu.rooted
          refine ⟨hu.userinfo, hu.host, ⟨rest ++ "&" ++ payload, ?_⟩, ?_, fun _ h => by cases h⟩
          · simp only [hrest, String.append_assoc]
          · simp only [String.toList_append, List.disjoint_append_right]
            exact ⟨⟨hu.path, by decide⟩, hpayload⟩
        · refine hquery ?_
          simp only [String.toList_append, List.mem_append]
          rintro ((h | h) | h)
          · exact hu.query q hown (mem_of_mem_dropQuestionMarks h)
          · simp at h
          · exact hhash h

/-- The parts of a request are those of the address that its text stands for. -/
theorem ofText_requestUrl {text : String} {key : Option String} {e : Endpoint}
    (h : build text key = .ok e) (op : Operation) (p : Params) :
    Url.Parts.ofText (e.requestUrl op p) =
      (e.requestAddress (Query.write (sent op p key))).parts := by
  have hu : e.url.WellFormed := (of_build h).1
  rw [requestUrl_eq h, ← toText_requestAddress hu]
  exact (wellFormed_requestAddress hu (Query.disjoint_write _)).ofText_toText

/-! ## What a request carries -/

/-- The texts of pairs that are appended to a query carry the pairs. -/
theorem split_append_write {pairs : List (String × String)} (h : pairs ≠ []) (q : String) :
    split '&' (q ++ "&" ++ Query.write pairs) = split '&' q ++ pairs.map Query.writePair := by
  rw [← Query.split_write h]
  exact split_append q _

/-- After the pieces of the query that an endpoint has of its own, at most one piece of that query
can be left. -/
theorem length_le_one_of_split_eq {u : Url} {q : String} {pieces : List String}
    (hq : u.query = some q) (hpieces : split '&' q = ownPieces u ++ pieces) :
    pieces.length ≤ 1 := by
  simp only [ownPieces, hq] at hpieces
  split at hpieces
  · next hempty =>
    rw [hempty] at hpieces
    exact Nat.le_of_eq (congrArg List.length hpieces).symm
  · rw [List.self_eq_append_right.mp hpieces]
    exact Nat.zero_le 1

/-- A query that follows the one of an endpoint carries the pairs of a request exactly if nothing of
that query was changed. -/
theorem carries_append_iff {u : Url} {own q : String} {pairs : List (String × String)}
    (hown : u.query = some own) (hne : own ≠ "") (hpairs : pairs ≠ []) :
    (∃ pieces, split '&' (q ++ "&" ++ Query.write pairs) = ownPieces u ++ pieces ∧
      pieces.map Query.readPair = pairs.map some) ↔ q = own := by
  have hread := Query.map_readPair_map_writePair pairs
  have hpieces : ownPieces u = split '&' own := by simp [ownPieces, hown, hne]
  rw [split_append_write hpairs, hpieces]
  constructor
  · rintro ⟨pieces, hsplit, hpieces⟩
    have hlength : (pairs.map Query.writePair).length = pieces.length := by
      have := congrArg List.length (hread.trans hpieces.symm)
      simpa using this
    exact split_injective (List.append_inj' hsplit hlength).1
  · rintro rfl
    exact ⟨_, rfl, hread⟩

/-- The text of a request carries what it sends to the endpoint exactly if the endpoint has no
fragment, and no query that ends with a question mark. -/
theorem requestUrl_carries_iff {text : String} {key : Option String} {e : Endpoint}
    (h : build text key = .ok e) (op : Operation) (p : Params) :
    Carries e.url (sent op p key) (e.requestUrl op p) ↔
      e.url.fragment = none ∧ ∀ q, e.url.query = some q → q.toList.getLast? ≠ some '?' := by
  have hsent : sent op p key ≠ [] := by simp [sent]
  have hlength : 2 ≤ (sent op p key).length := by simp [sent]
  have hread := Query.map_readPair_map_writePair (sent op p key)
  have hsplit := Query.split_write hsent
  unfold Carries
  rw [ofText_requestUrl h]
  unfold requestAddress
  cases hfragment : e.url.fragment with
  | some f =>
    -- The query of the text is that of the endpoint, which leaves one piece at most for the pairs.
    refine iff_of_false ?_ (by simp)
    rintro ⟨-, -, -, q, pieces, hq, hpieces, hpairs⟩
    have hle := length_le_one_of_split_eq hq hpieces
    have heq := congrArg List.length hpairs
    rw [List.length_map, List.length_map] at heq
    omega
  | none =>
    cases hquery : e.url.query with
    | none =>
      refine iff_of_true ⟨rfl, rfl, rfl, _, _, rfl, ?_, hread⟩ (by simp)
      simp [ownPieces, hquery, hsplit]
    | some q =>
      by_cases hempty : q = ""
      · subst hempty
        refine iff_of_true ⟨rfl, rfl, rfl, _, _, rfl, ?_, hread⟩ (by simp)
        simp [ownPieces, hquery, hsplit]
      · simp only [hempty, if_false, true_and, Option.some.injEq, forall_eq',
          ← dropQuestionMarks_eq_self_iff]
        by_cases hmarks : dropQuestionMarks q = ""
        · -- The question mark before the query is dropped with the query.
          simp only [hmarks, if_true]
          refine iff_of_false ?_ fun heq => hempty heq.symm
          rintro ⟨-, -, -, _, _, hnone, -⟩
          cases hnone
        · simp only [hmarks, if_false]
          rw [← carries_append_iff hquery hempty hsent]
          constructor
          · rintro ⟨-, -, -, q', pieces, hq, hcarried⟩
            obtain rfl := Option.some.inj hq
            exact ⟨pieces, hcarried⟩
          · rintro ⟨pieces, hcarried⟩
            exact ⟨rfl, rfl, rfl, _, pieces, rfl, hcarried⟩

/-- An endpoint with a query of its own gets the parameters and the key of the session after it. -/
theorem requestUrl_carries_own_query :
    ∃ e, build "http://mgmt.test:8080/client/api?zone=1" (some "a key") = .ok e ∧
      Carries e.url [("command", "listConfigurations"), ("response", "json"), ("name", "a&b"),
        ("sessionkey", "a key")]
        (e.requestUrl .listSettings (Params.text Dict.empty "name" "a&b")) := by
  have hbuild : build "http://mgmt.test:8080/client/api?zone=1" (some "a key") =
      .ok ⟨⟨.http, "", "mgmt.test", some 8080, "/client/api", some "zone=1", none⟩,
        some "a key"⟩ := rfl
  refine ⟨_, hbuild, (requestUrl_carries_iff hbuild _ _).mpr ⟨rfl, fun q hq => ?_⟩⟩
  cases hq
  decide

/-- A query of question marks is lost, and the parameters become part of the path. -/
theorem requestUrl_not_carries_question_marks :
    ∃ e, build "http://mgmt.test:8080/client/api??" none = .ok e ∧
      ¬ Carries e.url (sent .listSettings Dict.empty none)
        (e.requestUrl .listSettings Dict.empty) := by
  refine ⟨⟨⟨.http, "", "mgmt.test", some 8080, "/client/api", some "?", none⟩, none⟩, rfl, ?_⟩
  have hquery : (Url.Parts.ofText (requestUrl
      ⟨⟨.http, "", "mgmt.test", some 8080, "/client/api", some "?", none⟩, none⟩
      .listSettings Dict.empty)).query = none := by decide +kernel
  rintro ⟨-, -, -, q, -, hq, -⟩
  rw [hquery] at hq
  cases hq

end Endpoint

end SettingsConsole
