import SettingsConsole.Proofs.Text.Split
import SettingsConsole.Proofs.Traversal
import SettingsConsole.Remote.Redaction

/-!
# What masking changes

An address comes apart into the text before its first question mark and the pairs after it. Masking
puts a mask in place of the value of each secret pair and leaves everything else as it is. So a
second masking changes nothing, and two addresses look alike after it exactly if they differ in the
values of secret pairs only.
-/

namespace SettingsConsole.Redaction

open Text

/-! ## Pairs -/

/-- A key is secret if it is one of three names, in any case. -/
def Secret (key : String) : Prop :=
  ∃ name ∈ ["sessionkey", "apikey", "signature"], sameIgnoringCase key name = true

instance : DecidablePred Secret := fun key =>
  inferInstanceAs
    (Decidable (∃ name ∈ ["sessionkey", "apikey", "signature"], sameIgnoringCase key name = true))

/-- How a pair is shown. Its key is what stands before the first equals sign. -/
inductive Masks : String → String → Prop
  | secret {key : String} (value : String) (hkey : '=' ∉ key.toList) (hsecret : Secret key) :
      Masks (key ++ "=" ++ value) (key ++ "=" ++ "***")
  | plain {key : String} (value : String) (hkey : '=' ∉ key.toList) (hplain : ¬ Secret key) :
      Masks (key ++ "=" ++ value) (key ++ "=" ++ value)
  | bare {p : String} (hp : '=' ∉ p.toList) : Masks p p

/-- Two pairs are alike if they are the same, or both have the same secret key. -/
inductive Alike : String → String → Prop
  | same (p : String) : Alike p p
  | secret {key : String} (v w : String) (hkey : '=' ∉ key.toList) (hsecret : Secret key) :
      Alike (key ++ "=" ++ v) (key ++ "=" ++ w)

/-- The secret keys are those that are secret names in lower case. -/
theorem contains_asciiLower_iff (key : String) :
    secretNames.contains (asciiLower key) = true ↔ Secret key := by
  have hlower : ∀ name ∈ secretNames, asciiLower name = name := by decide
  rw [List.contains_iff_mem]
  constructor
  · intro h
    exact ⟨asciiLower key, h, beq_iff_eq.mpr (hlower _ h).symm⟩
  · intro h
    obtain ⟨name, hname, hsame⟩ := h
    rw [beq_iff_eq.mp hsame, hlower name hname]
    exact hname

/-- A pair with a key is masked if the key is secret. -/
theorem pair_of_key {key : String} (hkey : '=' ∉ key.toList) (value : String) :
    pair (key ++ "=" ++ value) =
      if Secret key then key ++ "=" ++ "***" else key ++ "=" ++ value := by
  have hcut : cut '=' (key ++ "=" ++ value) = some (key, value) := cut_append hkey value
  simp only [pair, hcut, contains_asciiLower_iff, mask]

/-- The value of a secret pair is masked. -/
theorem pair_of_secret {key value : String} (hkey : '=' ∉ key.toList) (hsecret : Secret key) :
    pair (key ++ "=" ++ value) = key ++ "=" ++ "***" := by
  rw [pair_of_key hkey, if_pos hsecret]

/-- A pair without an equals sign is left alone. -/
theorem pair_of_not_mem {p : String} (hp : '=' ∉ p.toList) : pair p = p := by
  rw [pair, cut_eq_none hp]

/-- Every pair is shown in the way that masking shows it. -/
theorem masks_pair (p : String) : Masks p (pair p) := by
  by_cases hmem : '=' ∈ p.toList
  · obtain ⟨key, value, rfl, hkey⟩ := exists_eq_append_of_mem hmem
    change Masks (key ++ "=" ++ value) (pair (key ++ "=" ++ value))
    rw [pair_of_key hkey]
    split
    · next hsecret => exact .secret value hkey hsecret
    · next hplain => exact .plain value hkey hplain
  · rw [pair_of_not_mem hmem]
    exact .bare hmem

/-- A pair that is masked a second time stays as it is. -/
theorem pair_pair (p : String) : pair (pair p) = pair p := by
  have h := masks_pair p
  generalize pair p = q at h ⊢
  cases h with
  | secret value hkey hsecret => exact pair_of_secret hkey hsecret
  | plain value hkey hplain => rw [pair_of_key hkey, if_neg hplain]
  | bare hp => exact pair_of_not_mem hp

/-- A pair that is not left alone has a secret key. -/
theorem pair_eq_self_or_secret (p : String) :
    pair p = p ∨ ∃ key value, p = key ++ "=" ++ value ∧ '=' ∉ key.toList ∧ Secret key := by
  have h := masks_pair p
  generalize pair p = q at h ⊢
  cases h with
  | @secret key value hkey hsecret => exact .inr ⟨key, value, rfl, hkey, hsecret⟩
  | plain => exact .inl rfl
  | bare => exact .inl rfl

/-- Two pairs are shown alike exactly if they are alike. -/
theorem pair_eq_pair_iff {p q : String} : pair p = pair q ↔ Alike p q := by
  constructor
  · intro h
    rcases pair_eq_self_or_secret p with hp | ⟨key, v, rfl, hkey, hsecret⟩
    · rw [hp] at h
      subst h
      rcases pair_eq_self_or_secret q with hq | ⟨key, w, rfl, hkey, hsecret⟩
      · rw [hq]
        exact .same q
      · rw [pair_of_secret hkey hsecret]
        exact .secret "***" w hkey hsecret
    · rw [pair_of_secret hkey hsecret] at h
      rcases pair_eq_self_or_secret q with hq | ⟨other, w, rfl, hother, hsecret'⟩
      · rw [← hq, ← h]
        exact .secret v "***" hkey hsecret
      · rw [pair_of_secret hother hsecret', String.append_assoc, String.append_assoc] at h
        obtain rfl : key = other := (String.append_left_inj _).mp h
        exact .secret v w hkey hsecret
  · intro h
    cases h with
    | same => rfl
    | secret v w hkey hsecret => rw [pair_of_secret hkey hsecret, pair_of_secret hkey hsecret]

/-- The pairs of two lists are shown alike exactly if each is like the one in its place. -/
theorem map_pair_eq_iff {ps qs : List String} :
    ps.map pair = qs.map pair ↔ List.Forall₂ Alike ps qs := by
  simp only [Traversal.map_eq_map_iff_forall₂, pair_eq_pair_iff]

/-- A pair without an ampersand is shown without one. -/
theorem amp_not_mem_pair {p : String} (hp : '&' ∉ p.toList) : '&' ∉ (pair p).toList := by
  rcases pair_eq_self_or_secret p with hsame | ⟨key, value, rfl, hkey, hsecret⟩
  · rwa [hsame]
  · rw [pair_of_secret hkey hsecret]
    simp only [String.toList_append, List.mem_append, not_or] at hp ⊢
    exact ⟨hp.1, by decide⟩

/-! ## Addresses -/

/-- An address comes apart at its first question mark, and at each ampersand after it. -/
structure Parts (url base : String) (pairs : List String) : Prop where
  question_not_mem : '?' ∉ base.toList
  amp_not_mem : ∀ p ∈ pairs, '&' ∉ p.toList
  ne_nil : pairs ≠ []
  eq : url = base ++ "?" ++ join "&" pairs

/-- Two addresses are the same but for the values of secret pairs. -/
def SameButSecrets (url other : String) : Prop :=
  url = other ∨ ∃ base ps qs, Parts url base ps ∧ Parts other base qs ∧ List.Forall₂ Alike ps qs

/-- An address with a question mark comes apart. -/
theorem exists_parts {url : String} (h : '?' ∈ url.toList) :
    ∃ base pairs, Parts url base pairs := by
  obtain ⟨base, rest, rfl, hbase⟩ := exists_eq_append_of_mem h
  have hrest : join (String.singleton '&') (split '&' rest) = rest := join_split rest
  refine ⟨base, split '&' rest, hbase, fun _ => not_mem_of_mem_split, split_ne_nil rest, ?_⟩
  exact congrArg (base ++ String.singleton '?' ++ ·) hrest.symm

namespace Parts

variable {url base : String} {pairs : List String}

/-- An address that comes apart has a question mark. -/
theorem question_mem (h : Parts url base pairs) : '?' ∈ url.toList := by
  rw [h.eq]
  simp

/-- The address is cut at its first question mark. -/
theorem cut_eq (h : Parts url base pairs) : cut '?' url = some (base, join "&" pairs) := by
  rw [h.eq]
  exact cut_append h.question_not_mem _

/-- The pairs are the pieces between the ampersands. -/
theorem split_eq (h : Parts url base pairs) : split '&' (join "&" pairs) = pairs :=
  split_join h.ne_nil h.amp_not_mem

/-- An address comes apart in one way. -/
theorem unique {base' : String} {pairs' : List String} (h : Parts url base pairs)
    (h' : Parts url base' pairs') : base = base' ∧ pairs = pairs' := by
  have hcut := Option.some.inj (h.cut_eq.symm.trans h'.cut_eq)
  obtain ⟨hbase, hjoin⟩ := Prod.mk.inj hcut
  exact ⟨hbase, by rw [← h.split_eq, hjoin, h'.split_eq]⟩

/-- Masking an address masks its pairs. -/
theorem masked (h : Parts url base pairs) : Parts (query url) base (pairs.map pair) where
  question_not_mem := h.question_not_mem
  amp_not_mem := List.forall_mem_map.mpr fun p hp => amp_not_mem_pair (h.amp_not_mem p hp)
  ne_nil := mt List.map_eq_nil_iff.mp h.ne_nil
  eq := by simp only [query, h.cut_eq, h.split_eq]

/-- A pair that is put at the end is the last of the pairs. -/
theorem append (h : Parts url base pairs) {piece : String} (hpiece : '&' ∉ piece.toList) :
    Parts (url ++ "&" ++ piece) base (pairs ++ [piece]) where
  question_not_mem := h.question_not_mem
  amp_not_mem := List.forall_mem_append.mpr ⟨h.amp_not_mem, List.forall_mem_singleton.mpr hpiece⟩
  ne_nil := List.append_ne_nil_of_left_ne_nil h.ne_nil [piece]
  eq := by
    rw [join_append h.ne_nil (List.cons_ne_nil piece []), h.eq]
    simp only [String.append_assoc]
    rfl

end Parts

/-- A pair at the end of a query is masked on its own. -/
theorem query_append_pair {url piece : String} (hurl : '?' ∈ url.toList)
    (hpiece : '&' ∉ piece.toList) :
    query (url ++ "&" ++ piece) = query url ++ "&" ++ pair piece := by
  obtain ⟨base, pairs, hparts⟩ := exists_parts hurl
  rw [(hparts.append hpiece).masked.eq, (hparts.masked.append (amp_not_mem_pair hpiece)).eq,
    List.map_append, List.map_singleton]

/-- An address without a question mark is left alone. -/
theorem query_of_not_mem {url : String} (h : '?' ∉ url.toList) : query url = url := by
  rw [query, cut_eq_none h]

/-- Masking brings no question mark into an address, and takes none away. -/
theorem question_mem_query_iff (url : String) : '?' ∈ (query url).toList ↔ '?' ∈ url.toList := by
  by_cases h : '?' ∈ url.toList
  · obtain ⟨base, pairs, hparts⟩ := exists_parts h
    exact iff_of_true hparts.masked.question_mem h
  · rw [query_of_not_mem h]

/-- An address that is masked a second time stays as it is. -/
theorem query_query (url : String) : query (query url) = query url := by
  by_cases h : '?' ∈ url.toList
  · obtain ⟨base, pairs, hparts⟩ := exists_parts h
    have hpairs : (pairs.map pair).map pair = pairs.map pair := by
      rw [List.map_map]
      exact List.map_congr_left fun p _ => pair_pair p
    rw [hparts.masked.masked.eq, hpairs, ← hparts.masked.eq]
  · rw [query_of_not_mem h, query_of_not_mem h]

/-- Two addresses are shown alike exactly if they are the same but for the values of secret
pairs. -/
theorem query_eq_query_iff (url other : String) :
    query url = query other ↔ SameButSecrets url other := by
  constructor
  · intro h
    by_cases hurl : '?' ∈ url.toList
    · have hother : '?' ∈ other.toList := by
        rwa [← question_mem_query_iff, ← h, question_mem_query_iff]
      obtain ⟨base, ps, hps⟩ := exists_parts hurl
      obtain ⟨base', qs, hqs⟩ := exists_parts hother
      obtain ⟨rfl, hpairs⟩ := hps.masked.unique (h ▸ hqs.masked)
      exact .inr ⟨base, ps, qs, hps, hqs, map_pair_eq_iff.mp hpairs⟩
    · have hother : '?' ∉ other.toList := by
        rwa [← question_mem_query_iff, ← h, question_mem_query_iff]
      rw [query_of_not_mem hurl, query_of_not_mem hother] at h
      exact .inl h
  · rintro (rfl | ⟨base, ps, qs, hps, hqs, halike⟩)
    · rfl
    · rw [hps.masked.eq, hqs.masked.eq, map_pair_eq_iff.mpr halike]

/-- An address without a question mark is left alone. In any other one the text up to the first
question mark stays, and the pairs after it stay in their places, with a mask for the value of each
secret pair. Masking a second time changes nothing, and two addresses look alike exactly if they are
the same but for the values of secret pairs. -/
theorem query_masks_exactly (url : String) :
    (('?' ∉ url.toList ∧ query url = url) ∨
        ∃ base pairs shown, Parts url base pairs ∧ Parts (query url) base shown ∧
          List.Forall₂ Masks pairs shown) ∧
      query (query url) = query url ∧
      ∀ other, query url = query other ↔ SameButSecrets url other := by
  refine ⟨?_, query_query url, query_eq_query_iff url⟩
  by_cases h : '?' ∈ url.toList
  · obtain ⟨base, pairs, hparts⟩ := exists_parts h
    refine .inr ⟨base, pairs, pairs.map pair, hparts, hparts.masked, ?_⟩
    rw [List.forall₂_map_right_iff]
    exact List.forall₂_same.mpr fun p _ => masks_pair p
  · exact .inl ⟨h, query_of_not_mem h⟩

end SettingsConsole.Redaction
