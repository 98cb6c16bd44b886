/-
Every compiled predicate is rendered, and read back from what was rendered.

The ClickHouse and the MySQL renderer bind literals and raise for no compiled
predicate.  The Flight renderer writes them out: it raises exactly for an integer
with more digits than `str` accepts, of which Daft makes no literal.
-/
import DaftOlap.ClickHouse.Reader
import DaftOlap.Compat.Filter
import DaftOlap.Doris.Reader

namespace DaftOlap

open Python

namespace Doris

theorem exists_flightStringLiteral {t : Text} (h : Text.ValidUtf8 t) :
    ∃ r, flightStringLiteral t = .ok r := by
  obtain ⟨bytes, hbytes⟩ := Text.encodeUtf8?_isSome h
  exact ⟨_, by rw [flightStringLiteral, hbytes]⟩

/-- A supported value is a Flight literal unless it is an integer too long for `str`. -/
theorem renderFlightLiteral_isOk_iff {v : PyValue} (hsupported : literalError? v = none)
    (htext : ∀ t, v = .str t → Text.ValidUtf8 t) :
    (∃ t, renderFlightLiteral v = .ok t) ↔ ∀ z, v = .int z → z.natAbs < 10 ^ maxStrDigits := by
  have htemporal : ∀ {t : Text}, v.isTimezoneAware = false → Text.ValidUtf8 t →
      ∃ r, renderTemporalLiteral v t = .ok r := by
    intro t hnaive ht
    obtain ⟨r, hr⟩ := exists_flightStringLiteral ht
    exact ⟨r, by rw [renderTemporalLiteral, hnaive, if_neg (by decide), hr]⟩
  cases v with
  | int z =>
    rw [renderFlightLiteral, strInt_isOk_iff]
    exact ⟨fun hz _ h => PyValue.int.inj h ▸ hz, fun h => h z rfl⟩
  | none => exact iff_of_true ⟨_, rfl⟩ (by simp)
  | bool b => exact iff_of_true ⟨_, rfl⟩ (by simp)
  | float f =>
    have hf : f.isFinite = true := by simpa [literalError?] using hsupported
    exact iff_of_true ⟨_, if_pos hf⟩ (by simp)
  | decimal d =>
    have hd : d.isFinite = true := by simpa [literalError?] using hsupported
    exact iff_of_true ⟨_, if_pos hd⟩ (by simp)
  | bytes b => exact iff_of_true ⟨_, rfl⟩ (by simp)
  | date d => exact iff_of_true (htemporal rfl (validUtf8_strDate d)) (by simp)
  | datetime d t =>
    have htext : Text.ValidUtf8 (strDate d ++ str " " ++ strTime t) :=
      ((validUtf8_strDate d).append (Text.validUtf8_str " ")).append (validUtf8_strTime t)
    exact iff_of_true (htemporal (naive_of_supported hsupported) htext) (by simp)
  | time t => exact iff_of_true (htemporal (naive_of_supported hsupported) (validUtf8_strTime t)) (by simp)
  | str t => exact iff_of_true (exists_flightStringLiteral (htext t rfl)) (by simp)
  | uuid u => exact iff_of_true (exists_flightStringLiteral (validUtf8_strUuid u)) (by simp)
  | other typeName => cases hsupported

theorem exists_renderPredicate_mysql {p : Predicate} (h : p.NullFree) :
    ∃ r, renderPredicate p .mysql = .ok r :=
  ⟨_, (renderWith_eq_ok_iff (str "%")).mpr ⟨h, write_mysql (str "%") [] p.template⟩⟩

theorem exists_renderPredicate_flight_iff {p : Predicate} (h : p.NullFree)
    (htext : ∀ t, PyValue.str t ∈ p.literals → Text.ValidUtf8 t) :
    (∃ r, renderPredicate p .flight = .ok r) ↔
      ∀ z, PyValue.int z ∈ p.literals → z.natAbs < 10 ^ maxStrDigits := by
  have hliteral : ∀ v ∈ p.literals, (∃ t, renderFlightLiteral v = .ok t) ↔
      ∀ z, v = .int z → z.natAbs < 10 ^ maxStrDigits := by
    intro v hv
    refine renderFlightLiteral_isOk_iff (Predicate.supported_of_mem_literals hv) ?_
    rintro t rfl
    exact htext t hv
  constructor
  · rintro ⟨r, hr⟩ z hz
    have hwrite := ((renderWith_eq_ok_iff (str "%")).mp hr).2
    have hrendered := (write_flight_eq_ok_iff.mp hwrite).1 (.int z) (p.holes_template.symm ▸ hz)
    exact (hliteral _ hz).mp ⟨_, hrendered⟩ z rfl
  · intro hint
    refine ⟨_, (renderWith_eq_ok_iff (str "%")).mpr ⟨h, write_flight_eq_ok_iff.mpr
      ⟨fun v hv => ?_, rfl⟩⟩⟩
    rw [p.holes_template] at hv
    obtain ⟨t, ht⟩ := (hliteral v hv).mpr fun z hz => hint z (hz ▸ hv)
    exact renderFlightLiteral_eq_ok ht

end Doris

theorem ClickHouse.exists_renderPredicate {p : Predicate} (h : p.NullFree) :
    ∃ r, ClickHouse.renderPredicate p = .ok r := by
  have hwrite := ClickHouse.write_writeLiteral (str "%") [] p.parts
  rw [p.partsTemplate_parts] at hwrite
  exact ⟨_, (renderWith_eq_ok_iff (str "%")).mpr ⟨h, hwrite⟩⟩

/-- Every compiled predicate is read back from what ClickHouse and Doris MySQL render.
Doris Flight renders it unless an integer has more than 4300 digits, and then it is
read back up to its SQL literals. -/
theorem rendered_of_compileFilter {e : Expr} {p : Predicate}
    (h : compileFilter (some e) = .ok (some p))
    (htext : ∀ t, PyValue.str t ∈ p.literals → Text.ValidUtf8 t) :
    (∃ r, ClickHouse.renderPredicate p = .ok r ∧
      ClickHouse.readPredicateBack r = some (p.tree id)) ∧
    (∃ r, Doris.renderPredicate p .mysql = .ok r ∧ Doris.readMysql r = some (p.tree id)) ∧
    ((∃ r, Doris.renderPredicate p .flight = .ok r) ↔
      ∀ z, PyValue.int z ∈ p.literals → z.natAbs < 10 ^ maxStrDigits) ∧
    ∀ r, Doris.renderPredicate p .flight = .ok r →
      Doris.readFlight r = some (p.tree Doris.sqlLiteral) := by
  have hnull := (compiles_of_compileFilter h).nullFree
  obtain ⟨r, hr⟩ := ClickHouse.exists_renderPredicate hnull
  obtain ⟨m, hm⟩ := Doris.exists_renderPredicate_mysql hnull
  exact ⟨⟨r, hr, ClickHouse.readPredicateBack_renderPredicate hr⟩,
    ⟨m, hm, Doris.readMysql_renderPredicate hm⟩,
    Doris.exists_renderPredicate_flight_iff hnull htext,
    fun _ => Doris.readFlight_renderPredicate⟩

/-- The integers of which Daft makes literals: those of `int64` and of `uint64`. -/
def IsDaftInteger (z : Int) : Prop := -2 ^ 63 ≤ z ∧ z < 2 ^ 64

/-- `str` accepts them. -/
theorem IsDaftInteger.digits {z : Int} (h : IsDaftInteger z) : z.natAbs < 10 ^ maxStrDigits := by
  obtain ⟨hlower, hupper⟩ := h
  have hbits : z.natAbs < 10 ^ 20 := by omega
  exact Nat.lt_of_lt_of_le hbits (Nat.pow_le_pow_right (by decide) (by decide))

/-- Every compiled predicate is rendered by all three renderers and read back, by Doris Flight
up to its SQL literals.  So different predicates are rendered differently. -/
theorem compiled_read_back {e : Expr} {p : Predicate}
    (h : compileFilter (some e) = .ok (some p))
    (htext : ∀ t, PyValue.str t ∈ p.literals → Text.ValidUtf8 t)
    (hinteger : ∀ z, PyValue.int z ∈ p.literals → IsDaftInteger z) :
    (∃ r, ClickHouse.renderPredicate p = .ok r ∧
      ClickHouse.readPredicateBack r = some (p.tree id)) ∧
    (∃ r, Doris.renderPredicate p .mysql = .ok r ∧ Doris.readMysql r = some (p.tree id)) ∧
    (∃ r, Doris.renderPredicate p .flight = .ok r ∧
      Doris.readFlight r = some (p.tree Doris.sqlLiteral)) ∧
    ∀ q,
      (ClickHouse.renderPredicate q = ClickHouse.renderPredicate p → q = p) ∧
      (Doris.renderPredicate q .mysql = Doris.renderPredicate p .mysql → q = p) ∧
      (Doris.renderPredicate q .flight = Doris.renderPredicate p .flight →
        q.tree Doris.sqlLiteral = p.tree Doris.sqlLiteral) := by
  obtain ⟨⟨r, hr, hnamed⟩, ⟨m, hm, hmysql⟩, hflight, hreads⟩ := rendered_of_compileFilter h htext
  obtain ⟨f, hf⟩ := hflight.mpr fun z hz => (hinteger z hz).digits
  refine ⟨⟨r, hr, hnamed⟩, ⟨m, hm, hmysql⟩, ⟨f, hf, hreads f hf⟩,
    fun q => ⟨fun hq => ?_, fun hq => ?_, fun hq => ?_⟩⟩
  · have hread := ClickHouse.readPredicateBack_renderPredicate (hq.trans hr)
    exact Predicate.tree_injective (Option.some.inj (hread.symm.trans hnamed))
  · have hread := Doris.readMysql_renderPredicate (hq.trans hm)
    exact Predicate.tree_injective (Option.some.inj (hread.symm.trans hmysql))
  · have hread := Doris.readFlight_renderPredicate (hq.trans hf)
    exact Option.some.inj (hread.symm.trans (hreads f hf))

/-- A column of hostile characters compared with a text, and another one with an integer. -/
def hostileFilter : Expr :=
  .and (.equal (.col (str "a` = 1) AND (b")) (.lit (.str (str "x"))))
    (.lessThan (.col (str "n")) (.lit (.int 7)))

theorem compiled_read_back_hostile :
    ∃ p, compileFilter (some hostileFilter) = .ok (some p) ∧
      Doris.renderPredicate p .flight =
        .ok (str "((`a`` = 1) AND (b` = from_base64('eA==')) AND (`n` < 7))", []) ∧
      Doris.readFlight (str "((`a`` = 1) AND (b` = from_base64('eA==')) AND (`n` < 7))", []) =
        some (p.tree Doris.sqlLiteral) := by
  obtain ⟨p, hp⟩ : ∃ p, compileFilter (some hostileFilter) = .ok (some p) := ⟨_, rfl⟩
  have hliterals : p.literals = [.str (str "x"), .int 7] := by
    obtain rfl := Option.some.inj (Except.ok.inj hp)
    rfl
  have hflight : Doris.renderPredicate p .flight =
      .ok (str "((`a`` = 1) AND (b` = from_base64('eA==')) AND (`n` < 7))", []) := by
    obtain rfl := Option.some.inj (Except.ok.inj hp)
    rfl
  refine ⟨p, hp, hflight, ?_⟩
  have htext : ∀ t, PyValue.str t ∈ p.literals → Text.ValidUtf8 t := by
    intro t ht
    rw [hliterals] at ht
    obtain rfl : t = str "x" := by simpa using ht
    decide
  have hinteger : ∀ z, PyValue.int z ∈ p.literals → IsDaftInteger z := by
    intro z hz
    rw [hliterals] at hz
    obtain rfl : z = 7 := by simpa using hz
    exact ⟨by decide, by decide⟩
  obtain ⟨-, -, ⟨r, hr, hread⟩, -⟩ := compiled_read_back hp htext hinteger
  rwa [← Except.ok.inj (hflight.symm.trans hr)] at hread

end DaftOlap
