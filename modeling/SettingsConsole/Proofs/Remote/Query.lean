import SettingsConsole.Proofs.Text.Percent
import SettingsConsole.Proofs.Text.Split
import SettingsConsole.Remote.Params

/-!
# Pairs of a query

A query is a sequence of pairs with ampersands between them, and a pair is a name and a value with
an equals sign between them, each percent-encoded. Whatever the names and the values are, reading
the query gives the same pairs in the same order.
-/

namespace SettingsConsole

namespace Query

open Text

/-- Write a name and a value as a pair. -/
def writePair (pair : String × String) : String :=
  Percent.encode pair.1 ++ "=" ++ Percent.encode pair.2

/-- Read a pair: it is split at its first equals sign, and both sides are decoded. -/
def readPair (piece : String) : Option (String × String) := do
  let (name, value) ← cut '=' piece
  let name ← Percent.decode? name
  let value ← Percent.decode? value
  pure (name, value)

/-- Write pairs as a query. -/
def write (pairs : List (String × String)) : String := join "&" (pairs.map writePair)

/-- A written pair reads back as itself. -/
theorem readPair_writePair (pair : String × String) : readPair (writePair pair) = some pair := by
  have hname : '=' ∉ (Percent.encode pair.1).toList := Percent.not_mem_encode (by decide) rfl _
  have hcut : cut '=' (writePair pair) = some (Percent.encode pair.1, Percent.encode pair.2) :=
    cut_append hname _
  simp [readPair, hcut, Percent.decode?_encode]

/-- A reserved character other than the equals sign is in no pair. -/
theorem not_mem_writePair {c : Char} (hpercent : c ≠ '%') (hequals : c ≠ '=')
    (hreserved : Percent.isUnreserved c = false) (pair : String × String) :
    c ∉ (writePair pair).toList := by
  have hencode := Percent.not_mem_encode hpercent hreserved
  have hsign : c ∉ "=".toList := by simpa using hequals
  simp only [writePair, String.toList_append, List.mem_append]
  rintro ((h | h) | h)
  · exact hencode _ h
  · exact hsign h
  · exact hencode _ h

/-- A written query holds neither question marks nor hashes. -/
theorem disjoint_write (pairs : List (String × String)) :
    ['?', '#'].Disjoint (write pairs).toList := by
  have hpair (pair : String × String) : ['?', '#'].Disjoint (writePair pair).toList := by
    rw [List.disjoint_cons_left, List.disjoint_cons_left]
    exact ⟨not_mem_writePair (by decide) (by decide) rfl pair,
      not_mem_writePair (by decide) (by decide) rfl pair, List.disjoint_nil_left _⟩
  refine disjoint_join (by decide) fun piece hpiece => ?_
  obtain ⟨pair, -, rfl⟩ := List.mem_map.mp hpiece
  exact hpair pair

/-- A written query splits into its pairs. -/
theorem split_write {pairs : List (String × String)} (h : pairs ≠ []) :
    split '&' (write pairs) = pairs.map writePair := by
  refine split_join (by simpa using h) fun piece hpiece => ?_
  obtain ⟨pair, -, rfl⟩ := List.mem_map.mp hpiece
  exact not_mem_writePair (by decide) (by decide) rfl pair

/-- The pairs of a written query read back as they were. -/
theorem map_readPair_map_writePair (pairs : List (String × String)) :
    (pairs.map writePair).map readPair = pairs.map some := by
  rw [List.map_map]
  exact List.map_congr_left fun pair _ => readPair_writePair pair

/-- Pairs after pairs are written after an ampersand. -/
theorem write_append {pairs : List (String × String)} (h : pairs ≠ [])
    (others : List (String × String)) :
    write (pairs ++ others) = write pairs ++ if others = [] then "" else "&" ++ write others := by
  split
  · next hothers => rw [hothers, List.append_nil, String.append_empty]
  · next hothers =>
    rw [write, List.map_append, join_append (by simpa using h) (by simpa using hothers),
      String.append_assoc]
    rfl

end Query

/-- The names and the values of parameters, in the order of the names. -/
def Params.pairs (p : Params) : List (String × String) := p.toList.map fun m => (m.1, m.2.display)

/-- The query string of parameters is the query of their pairs. -/
theorem Params.toQuery_eq_write (p : Params) : p.toQuery = Query.write p.pairs := by
  rw [toQuery, Query.write, pairs, List.map_map]
  rfl

end SettingsConsole
