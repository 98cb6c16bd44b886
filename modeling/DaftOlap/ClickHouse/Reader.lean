/-
Reading ClickHouse predicates back.

A literal is a marker `%(name)s`, which is looked up among the parameters.
-/
import DaftOlap.ClickHouse.Statement
import DaftOlap.Common.Reader

namespace DaftOlap
namespace ClickHouse

open Python

/-- A character of a marker's name. -/
def inMarker (c : PyChar) : Bool := c != PyChar.scalar ')'

/-- Read a marker and look its name up. -/
def readMarker : LiteralReader (List (Text × PyValue)) PyValue := fun params input => do
  let input ← expect (str "%(") input
  let name := input.takeWhile inMarker
  let input ← expect (str ")s") (input.dropWhile inMarker)
  let value ← params.lookup name
  some (value, params, input)

def readPredicateBack (r : Text × List (Text × PyValue)) : Option (Tree PyValue) :=
  (readWith readMarker r.2 r.1).map Prod.fst

theorem readMarker_namedPlaceholder {params : List (Text × PyValue)} {name : Text} {v : PyValue}
    (hname : PyChar.scalar ')' ∉ name) (hlookup : params.lookup name = some v) (rest : Text) :
    readMarker params (namedPlaceholder name ++ rest) = some (v, params, rest) := by
  have hinside : ∀ c ∈ name, inMarker c = true := by
    intro c hc
    have hne : c ≠ PyChar.scalar ')' := fun h => hname (h ▸ hc)
    simpa [inMarker] using hne
  have hstop : ¬ inMarker (PyChar.scalar ')') = true := by decide
  have hclose : str ")s" ++ rest = PyChar.scalar ')' :: (str "s" ++ rest) := rfl
  have htake : (name ++ (str ")s" ++ rest)).takeWhile inMarker = name := by
    rw [List.takeWhile_append_of_pos hinside, hclose, List.takeWhile_cons_of_neg hstop,
      List.append_nil]
  have hdrop : (name ++ (str ")s" ++ rest)).dropWhile inMarker = str ")s" ++ rest := by
    rw [List.dropWhile_append_of_pos hinside, hclose, List.dropWhile_cons_of_neg hstop]
  rw [readMarker, namedPlaceholder, List.append_assoc, List.append_assoc, expect_append]
  simp only [Option.bind_eq_bind, Option.bind_some, htake, hdrop, expect_append, hlookup]

theorem not_mem_literalName (n : Nat) : PyChar.scalar ')' ∉ literalName n := by
  intro h
  rcases List.mem_append.mp h with h | h
  · exact absurd h (by decide)
  · exact absurd (isAsciiDigit_of_mem_natText h) (by decide)

theorem readsLiterals_named {final : List (Text × PyValue)} (hnodup : (final.map Prod.fst).Nodup) :
    ReadsLiterals writeLiteral readMarker id final fun _ => final where
  extends_params := by
    intro params v t params' h
    obtain ⟨-, rfl⟩ := Prod.mk.inj (Except.ok.inj h)
    exact List.prefix_append _ _
  opens := by
    intro params v t params' _ h
    obtain ⟨rfl, -⟩ := Prod.mk.inj (Except.ok.inj h)
    exact ⟨_, _, rfl, by decide, by decide, by decide⟩
  reads := by
    intro params v t params' rest h hfinal _
    obtain ⟨rfl, rfl⟩ := Prod.mk.inj (Except.ok.inj h)
    have hmem : (literalName params.length, v) ∈ final :=
      hfinal.subset (List.mem_append_right _ List.mem_cons_self)
    exact readMarker_namedPlaceholder (not_mem_literalName _) (lookup_of_mem hnodup hmem) rest

/-- A rendered predicate is read back. -/
theorem readPredicateBack_renderPredicate {p : Predicate} {r : Text × List (Text × PyValue)}
    (h : renderPredicate p = .ok r) : readPredicateBack r = some (p.tree id) := by
  have hnodup : (r.2.map Prod.fst).Nodup := by
    rw [renderPredicate_eq_ok (str "%") h, predicateParameters_eq]
    exact nodup_numbered literalName_injective (fun v => v) 0 p.literals
  obtain ⟨t, final⟩ := r
  have hread := (readsLiterals_named hnodup).readWith_renderWith h
  rw [readPredicateBack, hread]
  rfl

end ClickHouse
end DaftOlap
