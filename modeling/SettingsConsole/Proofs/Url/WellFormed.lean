import SettingsConsole.Proofs.Text.Percent
import SettingsConsole.Proofs.Text.Split
import SettingsConsole.Url.Parser
import Mathlib.Data.List.Basic

/-!
# Parts that keep their separators out

Every address that is read is in a form in which no part can be taken for another one: what stands
before the path holds no slash, question mark or hash, the path holds no question mark or hash and
begins with a slash, and the query holds no hash.
-/

namespace SettingsConsole.Url

open Text

/-- The signs of which the first one ends the authority of an address. -/
abbrev authorityEnds : List Char := ['/', '?', '#']

/-- An address whose parts can be told apart in its text. -/
structure WellFormed (u : Url) : Prop where
  userinfo : authorityEnds.Disjoint u.userinfo.toList
  host : authorityEnds.Disjoint u.host.toList
  rooted : ∃ rest, u.path = "/" ++ rest
  path : ['?', '#'].Disjoint u.path.toList
  query : ∀ q, u.query = some q → '#' ∉ q.toList

/-! ## Hosts -/

/-- A digit is no sign that ends an authority. -/
theorem disjoint_digitChar {n : Nat} (h : n < 16) : authorityEnds.Disjoint [n.digitChar] := by
  have all : ∀ m ∈ List.range 16, authorityEnds.Disjoint [m.digitChar] := by decide
  exact all n (List.mem_range.mpr h)

/-- A number in a base up to sixteen holds no sign that ends an authority. -/
theorem disjoint_toDigits {base : Nat} (hbase : 1 < base) (hle : base ≤ 16) (n : Nat) :
    authorityEnds.Disjoint (Nat.toDigits base n) := by
  induction n using Nat.strongRecOn with
  | ind n ih =>
    rw [Nat.toDigits_eq_if hbase]
    split
    · next hn => exact disjoint_digitChar (by omega)
    · next hn =>
      have hmod : n % base < base := Nat.mod_lt n (by omega)
      refine List.disjoint_append_right.mpr ⟨ih _ ?_, disjoint_digitChar (by omega)⟩
      exact Nat.div_lt_self (by omega) hbase

/-- A decimal number holds no sign that ends an authority. -/
theorem disjoint_toString (n : Nat) : authorityEnds.Disjoint (toString n).toList := by
  rw [Nat.toString_eq_ofList_toDigits, String.toList_ofList]
  exact disjoint_toDigits (by decide) (by decide) n

/-- An IPv4 address holds no sign that ends an authority. -/
theorem disjoint_ipv4Text (n : Nat) : authorityEnds.Disjoint (ipv4Text n).toList := by
  refine disjoint_join (by decide) fun piece hpiece => ?_
  obtain ⟨byte, -, rfl⟩ := List.mem_map.mp hpiece
  exact disjoint_toString byte

/-- An IPv6 address holds no sign that ends an authority. -/
theorem disjoint_ipv6Text (pieces : List Nat) :
    authorityEnds.Disjoint (ipv6Text pieces).toList := by
  have hhex (ps : List Nat) : authorityEnds.Disjoint
      (join ":" (ps.map fun p => String.ofList (Nat.toDigits 16 p))).toList := by
    refine disjoint_join (by decide) fun piece hpiece => ?_
    obtain ⟨p, -, rfl⟩ := List.mem_map.mp hpiece
    rw [String.toList_ofList]
    exact disjoint_toDigits (by decide) (by decide) p
  simp only [ipv6Text]
  split
  · exact hhex pieces
  · simp only [String.toList_append, List.disjoint_append_right]
    exact ⟨⟨hhex _, by decide⟩, hhex _⟩

/-- A domain without forbidden signs holds no sign that ends an authority. -/
theorem disjoint_of_not_forbidden {domain : List Char}
    (h : domain.any isForbiddenInDomain = false) :
    authorityEnds.Disjoint domain := by
  have hforbidden : authorityEnds.all isForbiddenInDomain = true := by decide
  intro c hc hdomain
  exact List.any_eq_false.mp h c hdomain (List.all_eq_true.mp hforbidden c hc)

/-- A host in normal form holds no sign that ends an authority. -/
theorem disjoint_of_normalHost {cs : List Char} {host : String} (h : normalHost cs = .ok host) :
    authorityEnds.Disjoint host.toList := by
  unfold normalHost at h
  split at h
  · split at h
    · split at h
      · cases h
        simp only [String.toList_append, List.disjoint_append_right]
        exact ⟨⟨by decide, disjoint_ipv6Text _⟩, by decide⟩
      · cases h
    · cases h
  · dsimp only at h
    split at h
    · cases h
    · next domain _ =>
      split at h
      · cases h
      · next hforbidden =>
        split at h
        · cases h
        · split at h
          · split at h
            · cases h
              exact disjoint_ipv4Text _
            · cases h
          · cases h
            rw [String.toList_ofList]
            exact disjoint_of_not_forbidden (Bool.not_eq_true _ ▸ hforbidden)

/-! ## User names and paths -/

/-- What is escaped holds none of the signs that have to be escaped. -/
theorem disjoint_escape {signs : List Char} {escaped : Char → Bool}
    (h : (signs.all fun c => escaped c && c != '%' && !Percent.isUnreserved c) = true)
    (cs : List Char) : signs.Disjoint (Percent.escape escaped cs) := by
  intro c hc
  have hsign := List.all_eq_true.mp h c hc
  simp only [Bool.and_eq_true, bne_iff_ne, Bool.not_eq_true'] at hsign
  exact Percent.not_mem_escape hsign.1.1 hsign.1.2 hsign.2 cs

/-- User name and password hold no sign that ends an authority. -/
theorem disjoint_userinfoText (cs : List Char) :
    authorityEnds.Disjoint (userinfoText cs).toList := by
  have hescape (cs : List Char) : authorityEnds.Disjoint (Percent.escape escapedInUserinfo cs) :=
    disjoint_escape (by decide) cs
  simp only [userinfoText]
  split
  · exact List.disjoint_nil_right _
  · simp only [String.toList_ofList, List.disjoint_append_right]
    refine ⟨⟨hescape _, ?_⟩, by decide⟩
    split
    · exact List.disjoint_nil_right _
    · exact List.disjoint_cons_right.mpr ⟨by decide, hescape _⟩

/-- Dropping the last segment leaves only segments that were there. -/
theorem mem_of_mem_dropSegment {seg : List Char} {done : List (List Char)}
    (h : seg ∈ dropSegment done) : seg ∈ done := by
  cases done with
  | nil => exact h
  | cons last done =>
    simp only [dropSegment] at h
    split at h
    · exact h
    · exact List.mem_cons_of_mem _ h

/-- Whatever holds of all segments and of the empty one holds of all that are left when dots are
resolved. -/
theorem forall_mem_resolve {good : List Char → Prop} (hnil : good []) {segs done : List (List Char)}
    (hsegs : ∀ seg ∈ segs, good seg) (hdone : ∀ seg ∈ done, good seg) :
    ∀ seg ∈ resolve done segs, good seg := by
  induction segs generalizing done with
  | nil =>
    intro seg hseg
    exact hdone seg (List.mem_reverse.mp hseg)
  | cons first rest ih =>
    have hrest : ∀ seg ∈ rest, good seg := fun seg hseg => hsegs seg (List.mem_cons_of_mem _ hseg)
    have hending (done : List (List Char)) (hdone : ∀ seg ∈ done, good seg) :
        ∀ seg ∈ (if rest.isEmpty then [] :: done else done), good seg := by
      intro seg hseg
      split at hseg
      · rcases List.mem_cons.mp hseg with rfl | hseg
        · exact hnil
        · exact hdone seg hseg
      · exact hdone seg hseg
    simp only [resolve]
    split
    · exact ih hrest (hending _ fun seg hseg => hdone seg (mem_of_mem_dropSegment hseg))
    · split
      · exact ih hrest (hending _ hdone)
      · refine ih hrest fun seg hseg => ?_
        rcases List.mem_cons.mp hseg with rfl | hseg
        · exact hsegs _ List.mem_cons_self
        · exact hdone seg hseg

/-- Segments with slashes between them hold no sign that is neither a slash nor in a segment. -/
theorem disjoint_intercalate {signs : List Char} (hslash : '/' ∉ signs) {segs : List (List Char)}
    (h : ∀ seg ∈ segs, signs.Disjoint seg) : signs.Disjoint (['/'].intercalate segs) := by
  induction segs with
  | nil => exact List.disjoint_nil_right _
  | cons seg segs ih =>
    have hseg : signs.Disjoint seg := h seg List.mem_cons_self
    have hsegs := ih fun other hother => h other (List.mem_cons_of_mem _ hother)
    cases segs with
    | nil => simpa using hseg
    | cons next rest =>
      rw [List.intercalate_cons_cons]
      simp only [List.disjoint_append_right, List.disjoint_singleton]
      exact ⟨⟨hseg, hslash⟩, hsegs⟩

/-- The path of a web address begins with a slash, and holds no question mark and no hash. -/
theorem webPath_wellFormed (cs : List Char) :
    (∃ rest, webPath cs = "/" ++ rest) ∧ ['?', '#'].Disjoint (webPath cs).toList := by
  have hsegs (segs : List (List Char)) :
      ∀ seg ∈ resolve [] (segs.map (Percent.escape escapedInPath)), ['?', '#'].Disjoint seg := by
    refine forall_mem_resolve (List.disjoint_nil_right _) ?_ (by simp)
    intro seg hseg
    obtain ⟨raw, -, rfl⟩ := List.mem_map.mp hseg
    exact disjoint_escape (by decide) raw
  have hrooted (cs : List Char) : String.ofList ('/' :: cs) = "/" ++ String.ofList cs := by
    rw [← List.singleton_append, String.ofList_append]
  simp only [webPath]
  refine ⟨⟨_, hrooted _⟩, ?_⟩
  rw [String.toList_ofList, List.disjoint_cons_right]
  exact ⟨by decide, disjoint_intercalate (by decide) (hsegs _)⟩

/-! ## Addresses -/

/-- User name and password of an authority hold no sign that ends it. -/
theorem disjoint_userinfo_of_authority {cs : List Char} {atEnd : Bool} {a : Authority}
    (h : authority cs atEnd = .ok a) : authorityEnds.Disjoint a.userinfo.toList := by
  unfold authority at h
  split at h
  · cases h
    exact List.disjoint_nil_right _
  · split at h
    · cases h
    · cases h
      exact disjoint_userinfoText _

/-- Where the parts of an address come from that was read. -/
theorem parts_of_web {scheme : Scheme} {cs : List Char} {u : Url} (h : web scheme cs = .ok u) :
    ∃ authorityText atEnd a path, authority authorityText atEnd = .ok a ∧
      u.userinfo = a.userinfo ∧ normalHost a.host = .ok u.host ∧ u.path = webPath path ∧
      ∀ q, u.query = some q → ∃ raw, q = String.ofList (Percent.escape escapedInQuery raw) := by
  simp only [web, bind, Except.bind] at h
  split at h
  · cases h
  · next a ha =>
    split at h
    · cases h
    · split at h
      · cases h
      · next host hhost =>
        split at h
        · cases h
        · cases h
          refine ⟨_, _, a, _, ha, rfl, hhost, rfl, fun q hq => ?_⟩
          dsimp only at hq
          split at hq
          · exact ⟨_, (Option.some.inj hq).symm⟩
          · cases hq

/-- The address of a web server that is read is well-formed. -/
theorem wellFormed_of_web {scheme : Scheme} {cs : List Char} {u : Url} (h : web scheme cs = .ok u) :
    u.WellFormed := by
  obtain ⟨_, _, a, path, ha, huserinfo, hhost, hpath, hquery⟩ := parts_of_web h
  have hwebPath := webPath_wellFormed path
  rw [← hpath] at hwebPath
  refine ⟨huserinfo ▸ disjoint_userinfo_of_authority ha, disjoint_of_normalHost hhost, hwebPath.1,
    hwebPath.2, fun q hq => ?_⟩
  obtain ⟨raw, rfl⟩ := hquery q hq
  rw [String.toList_ofList]
  exact Percent.not_mem_escape (by decide) (by decide) (by decide) raw

/-- Every web address that is read is well-formed. -/
theorem wellFormed_of_parse {s : String} {u : Url} (h : parse s = .ok (.web u)) : u.WellFormed := by
  have hmap {scheme : Scheme} {cs : List Char}
      (h : (web scheme cs).map Address.web = .ok (.web u)) :
      u.WellFormed := by
    cases hweb : web scheme cs with
    | error e => rw [hweb] at h; cases h
    | ok v =>
      rw [hweb] at h
      cases h
      exact wellFormed_of_web hweb
  have hother {α : Type} {x : Except Fault α} {name : String}
      (h : (x.map fun _ => Address.other name) = .ok (.web u)) : u.WellFormed := by
    cases x <;> cases h
  unfold parse at h
  split at h
  · cases h
  · dsimp only at h
    split at h
    · exact hmap h
    · exact hmap h
    · exact hother h
    · exact hother h
    · exact hother h
    · exact hother h
    · split at h
      · exact hother h
      · cases h

end SettingsConsole.Url
