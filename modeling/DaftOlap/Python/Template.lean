/-
Formats built from templates.

A `Template` is a text with holes and with percent signs that are meant
literally.  Rendered with the placeholder of each hole and with every literal
percent sign doubled it is a format; rendered with the value of each hole and
with single percent signs it is the text the format is meant to produce.  The
literal text between them is copied into the format as it is, and a percent sign
in it is what goes wrong: `percentFormat_template_iff` and
`percentFormatMapping_template_iff` say that formatting produces the intended
text exactly when the literal text has none.

The converse halves weigh percent signs.  A doubled percent sign spends two and
yields one; a conversion that consumes a value spends one and yields none when
the values have none.  So a format with stray percent signs either has no
conversion left for some hole or yields too few percent signs.
-/
import DaftOlap.Python.Format

namespace DaftOlap
namespace Python

/-! ## What one step of the reader can do -/

/-- The percent signs spent on the specifier the reader is inside. -/
def FormatState.spent : FormatState → Nat
  | .literal => 0
  | .key _ read => 1 + read.count (PyChar.scalar '%')
  | _ => 1

/-- Every way one step of the reader can succeed. -/
inductive StepEffect (u : UnicodeData) :
    FormatState → FormatArgs → PyChar → FormatStep → Prop
  | copy {args : FormatArgs} {c : PyChar} (hc : c ≠ '%') :
      StepEffect u .literal args c (.emit [c] args)
  | percent {state : FormatState} {args : FormatArgs} (hs : state.spent = 1) :
      StepEffect u state args '%' (.emit [PyChar.scalar '%'] args)
  | inside {state state' : FormatState} {args : FormatArgs} {c : PyChar}
      (hs : state'.spent = state.spent + [c].count (PyChar.scalar '%')) :
      StepEffect u state args c (.move state' args)
  | select {args args' : FormatArgs} {read : Text} (ha : args.select read = .ok args') :
      StepEffect u (.key 0 read) args ')' (.move (.flags {}) args')
  | consume {state : FormatState} {args args' : FormatArgs} {c : PyChar} {arg : FormatArg}
      {spec : FormatSpec} {t : Text} (hs : state.spent = 1) (hc : c ≠ '%')
      (ha : args.next = .ok (arg, args')) (ht : spec.convert u c arg = .ok t) :
      StepEffect u state args c (.emit t args')

theorem finishStep_effect {u : UnicodeData} {spec : FormatSpec} {state : FormatState}
    {args : FormatArgs} {c : PyChar} {r : FormatStep} (hs : state.spent = 1)
    (h : spec.finishStep u c args = .ok r) : StepEffect u state args c r := by
  unfold FormatSpec.finishStep FormatSpec.finish at h
  by_cases hc : c = PyChar.scalar '%'
  · subst hc
    by_cases ha : args.settled = true
    · simp only [ha, if_true, bind, Except.bind, Except.ok.injEq] at h
      subst h
      exact .percent hs
    · simp [ha, bind, Except.bind] at h
  · cases ha : args.next with
    | error e => simp [hc, ha, bind, Except.bind] at h
    | ok p =>
      obtain ⟨arg, args'⟩ := p
      cases ht : spec.convert u c arg with
      | error e => simp [hc, ha, ht, bind, Except.bind] at h
      | ok t =>
        simp only [hc, if_false, ha, ht, bind, Except.bind, Except.ok.injEq] at h
        subst h
        exact .consume hs hc ha ht

theorem isLengthModifier_ne_percent {c : PyChar} (h : isLengthModifier c = true) :
    c ≠ PyChar.scalar '%' := by
  rintro rfl
  exact absurd h (by decide)

theorem isFormatFlag_ne_percent {c : PyChar} (h : isFormatFlag c = true) :
    c ≠ PyChar.scalar '%' := by
  rintro rfl
  exact absurd h (by decide)

theorem isAsciiDigit_ne_percent {c : PyChar} (h : c.isAsciiDigit = true) :
    c ≠ PyChar.scalar '%' := by
  rintro rfl
  exact absurd h (by decide)

/-- A code point other than `%` that keeps the reader inside a specifier. -/
theorem inside_effect {u : UnicodeData} {state state' : FormatState} {args : FormatArgs}
    {c : PyChar} (hs : state.spent = 1) (hs' : state'.spent = 1) (hc : c ≠ PyChar.scalar '%') :
    StepEffect u state args c (.move state' args) :=
  .inside (by rw [hs, hs', List.count_eq_zero_of_not_mem (by simpa using Ne.symm hc)])

theorem afterPrecision_effect {u : UnicodeData} {spec : FormatSpec} {state : FormatState}
    {args : FormatArgs} {c : PyChar} {r : FormatStep} (hs : state.spent = 1)
    (h : spec.afterPrecision u c args = .ok r) : StepEffect u state args c r := by
  unfold FormatSpec.afterPrecision at h
  by_cases hl : isLengthModifier c = true
  · simp only [hl, if_true, Except.ok.injEq] at h
    subst h
    exact inside_effect hs rfl (isLengthModifier_ne_percent hl)
  · rw [if_neg hl] at h
    exact finishStep_effect hs h

theorem afterWidth_effect {u : UnicodeData} {spec : FormatSpec} {state : FormatState}
    {args : FormatArgs} {c : PyChar} {r : FormatStep} (hs : state.spent = 1)
    (h : spec.afterWidth u c args = .ok r) : StepEffect u state args c r := by
  unfold FormatSpec.afterWidth at h
  by_cases hp : c = PyChar.scalar '.'
  · simp only [hp, if_true, Except.ok.injEq] at h
    subst h
    exact inside_effect hs rfl (by rw [hp]; decide)
  · rw [if_neg hp] at h
    exact afterPrecision_effect hs h

theorem afterFlags_effect {u : UnicodeData} {spec : FormatSpec} {state : FormatState}
    {args : FormatArgs} {c : PyChar} {r : FormatStep} (hs : state.spent = 1)
    (h : spec.afterFlags u c args = .ok r) : StepEffect u state args c r := by
  unfold FormatSpec.afterFlags at h
  by_cases hf : isFormatFlag c = true
  · simp only [hf, if_true, Except.ok.injEq] at h
    subst h
    exact inside_effect hs rfl (isFormatFlag_ne_percent hf)
  rw [if_neg hf] at h
  by_cases hstar : c = PyChar.scalar '*'
  · simp [hstar] at h
  rw [if_neg hstar] at h
  by_cases hd : c.isAsciiDigit = true
  · simp only [hd, if_true, Except.ok.injEq] at h
    subst h
    exact inside_effect hs rfl (isAsciiDigit_ne_percent hd)
  · rw [if_neg hd] at h
    exact afterWidth_effect hs h

theorem key_effect {u : UnicodeData} {depth : Nat} {read : Text} {args : FormatArgs} {c : PyChar}
    {r : FormatStep} (h : formatStep u (.key depth read) args c = .ok r) :
    StepEffect u (.key depth read) args c r := by
  have hspent : ∀ d : Nat, (FormatState.key d (read ++ [c])).spent =
      (FormatState.key depth read).spent + [c].count (PyChar.scalar '%') := by
    intro d
    simp only [FormatState.spent, List.count_append]
    omega
  simp only [formatStep] at h
  split at h
  · rename_i hclose
    obtain ⟨rfl, rfl⟩ := hclose
    cases ha : args.select read with
    | error e => simp [ha, bind, Except.bind] at h
    | ok args' =>
      simp only [ha, bind, Except.bind, Except.ok.injEq] at h
      subst h
      exact .select ha
  · split at h <;> [skip; split at h] <;>
      (simp only [Except.ok.injEq] at h; subst h; exact .inside (hspent _))

/-- Inversion of the step function. -/
theorem formatStep_effect {u : UnicodeData} {state : FormatState} {args : FormatArgs} {c : PyChar}
    {r : FormatStep} (h : formatStep u state args c = .ok r) : StepEffect u state args c r := by
  cases state with
  | literal =>
    by_cases hc : c = PyChar.scalar '%'
    · subst hc
      simp only [formatStep, if_true, Except.ok.injEq] at h
      subst h
      exact .inside rfl
    · simp only [formatStep, hc, if_false, Except.ok.injEq] at h
      subst h
      exact .copy hc
  | percent =>
    by_cases hc : c = PyChar.scalar '%'
    · subst hc
      simp only [formatStep, if_true, Except.ok.injEq] at h
      subst h
      exact .percent rfl
    by_cases hk : c = PyChar.scalar '('
    · subst hk
      cases args with
      | positional rest => simp [formatStep] at h
      | named m current used =>
        simp [formatStep] at h
        subst h
        exact .inside rfl
    · simp only [formatStep, hc, hk, if_false] at h
      exact afterFlags_effect rfl h
  | key depth read => exact key_effect h
  | flags spec => exact afterFlags_effect rfl h
  | width spec =>
    by_cases hd : c.isAsciiDigit = true
    · simp only [formatStep, hd, if_true, Except.ok.injEq] at h
      subst h
      exact inside_effect rfl rfl (isAsciiDigit_ne_percent hd)
    · simp only [formatStep, hd] at h
      exact afterWidth_effect rfl h
  | point spec =>
    by_cases hstar : c = PyChar.scalar '*'
    · simp [formatStep, hstar] at h
    by_cases hd : c.isAsciiDigit = true
    · simp only [formatStep, hstar, if_false, hd, if_true, Except.ok.injEq] at h
      subst h
      exact inside_effect rfl rfl (isAsciiDigit_ne_percent hd)
    · simp only [formatStep, hstar, if_false, hd] at h
      exact afterPrecision_effect rfl h
  | precision spec =>
    by_cases hd : c.isAsciiDigit = true
    · simp only [formatStep, hd, if_true, Except.ok.injEq] at h
      subst h
      exact inside_effect rfl rfl (isAsciiDigit_ne_percent hd)
    · simp only [formatStep, hd] at h
      exact afterPrecision_effect rfl h
  | lengthModifier spec => exact finishStep_effect rfl h

/-! ## What a conversion yields -/

/-- The code points an escape sequence of `repr` is made of. -/
def IsEscapeChar (x : PyChar) : Prop :=
  x ∈ str "\\xuUtnr" ∨ ∃ n : Nat, x = PyChar.scalar n.digitChar

theorem mem_hexText {x : PyChar} {width n : Nat} (h : x ∈ hexText width n) : IsEscapeChar x := by
  induction width generalizing n with
  | zero => simp [hexText] at h
  | succ width ih =>
    rw [hexText, List.mem_append, List.mem_singleton] at h
    rcases h with h | h
    · exact ih h
    · exact Or.inr ⟨_, h⟩

theorem mem_escapeHex {x : PyChar} {n : Nat} (h : x ∈ escapeHex n) : IsEscapeChar x := by
  have hstr : ∀ s : String, x ∈ str s → str s ⊆ str "\\xuUtnr" → IsEscapeChar x :=
    fun s hx hs => Or.inl (hs hx)
  unfold escapeHex at h
  split at h <;> [skip; split at h] <;> rw [List.mem_append] at h <;> rcases h with h | h <;>
    first
      | exact mem_hexText h
      | exact hstr _ h (by decide)

/-- A code point of a `repr` belongs to an escape sequence or is copied. -/
theorem mem_reprChar {u : UnicodeData} {quote c x : PyChar} (h : x ∈ reprChar u quote c) :
    IsEscapeChar x ∨ (x = c ∧ (c = quote ∨ 0x20 ≤ c.ord)) := by
  have hstr : ∀ s : String, x ∈ str s → str s ⊆ str "\\xuUtnr" →
      IsEscapeChar x ∨ (x = c ∧ (c = quote ∨ 0x20 ≤ c.ord)) :=
    fun s hx hs => Or.inl (Or.inl (hs hx))
  unfold reprChar at h
  split at h
  · rename_i hq
    rcases List.mem_cons.mp h with rfl | h
    · exact Or.inl (Or.inl (by decide))
    · rw [List.mem_singleton] at h
      rcases hq with hq | hq
      · exact Or.inr ⟨h, Or.inl hq⟩
      · exact Or.inl (Or.inl (by rw [h, hq]; decide))
  split at h
  · exact hstr _ h (by decide)
  split at h
  · exact hstr _ h (by decide)
  split at h
  · exact hstr _ h (by decide)
  split at h
  · exact Or.inl (mem_escapeHex h)
  split at h
  · rename_i hlow _
    rw [List.mem_singleton] at h
    exact Or.inr ⟨h, Or.inr (by omega)⟩
  · exact Or.inl (mem_escapeHex h)

theorem mem_reprText {u : UnicodeData} {t : Text} {x : PyChar} (h : x ∈ reprText u t) :
    IsEscapeChar x ∨ x = '\'' ∨ x = '"' ∨ (x ∈ t ∧ 0x20 ≤ x.ord) := by
  have hquote : ∀ q : PyChar, q = '\'' ∨ q = '"' →
      x ∈ q :: t.flatMap (reprChar u q) ++ [q] →
      IsEscapeChar x ∨ x = '\'' ∨ x = '"' ∨ (x ∈ t ∧ 0x20 ≤ x.ord) := by
    intro q hq hx
    rw [List.cons_append, List.mem_cons, List.mem_append, List.mem_singleton,
      List.mem_flatMap] at hx
    rcases hx with hx | ⟨c, hc, hx⟩ | hx
    · rw [hx]
      tauto
    · rcases mem_reprChar hx with hx | ⟨rfl, hx⟩
      · exact Or.inl hx
      · rcases hx with hx | hx
        · rw [hx]
          tauto
        · exact Or.inr (Or.inr (Or.inr ⟨hc, hx⟩))
    · rw [hx]
      tauto
  unfold reprText at h
  split at h
  · exact hquote _ (Or.inr rfl) h
  · exact hquote _ (Or.inl rfl) h

theorem mem_asciiText {t : Text} {x : PyChar} (h : x ∈ asciiText t) : IsEscapeChar x ∨ x ∈ t := by
  rw [asciiText, List.mem_flatMap] at h
  obtain ⟨c, hc, hx⟩ := h
  split at hx
  · rw [List.mem_singleton] at hx
    exact Or.inr (hx ▸ hc)
  · exact Or.inl (mem_escapeHex hx)

theorem not_isEscapeChar_percent : ¬ IsEscapeChar (PyChar.scalar '%') := by
  rintro (h | ⟨n, h⟩)
  · exact absurd h (by decide)
  · simp at h

/-- The probe: a control character, which every `repr` escapes. -/
def probe : PyChar := .scalar '\x01'

theorem not_isEscapeChar_probe : ¬ IsEscapeChar probe := by
  rintro (h | ⟨n, h⟩)
  · exact absurd h (by decide)
  · simp [probe] at h

theorem percent_not_mem_reprText {u : UnicodeData} {t : Text} (ht : PyChar.scalar '%' ∉ t) :
    PyChar.scalar '%' ∉ reprText u t := by
  intro h
  rcases mem_reprText h with h | h | h | h
  · exact not_isEscapeChar_percent h
  · exact absurd h (by decide)
  · exact absurd h (by decide)
  · exact ht h.1

theorem probe_not_mem_reprText (u : UnicodeData) (t : Text) : probe ∉ reprText u t := by
  intro h
  rcases mem_reprText h with h | h | h | h
  · exact not_isEscapeChar_probe h
  · exact absurd h (by decide)
  · exact absurd h (by decide)
  · exact absurd h.2 (by decide)

/-- `c` occurs in no text an argument can be converted to. -/
structure FormatArg.Free (u : UnicodeData) (c : PyChar) (arg : FormatArg) : Prop where
  toStr : c ∉ arg.toStr u
  repr : c ∉ arg.repr u

theorem FormatArg.free_text {u : UnicodeData} {t : Text} (ht : PyChar.scalar '%' ∉ t) :
    (FormatArg.text t).Free u (PyChar.scalar '%') :=
  ⟨ht, percent_not_mem_reprText ht⟩

theorem FormatArg.free_mapping {u : UnicodeData} {c : PyChar} {m : List (Text × Text)}
    (hc : c ∉ str "\x7b\x7d, :") (hm : ∀ e ∈ m, c ∉ reprText u e.1 ∧ c ∉ reprText u e.2) :
    (FormatArg.mapping m).Free u c := by
  have hrepr : c ∉ (FormatArg.mapping m).repr u := by
    intro h
    rw [FormatArg.repr, List.mem_append, List.mem_append] at h
    rcases h with (h | h) | h
    · exact hc ((by decide : str "\x7b" ⊆ str "\x7b\x7d, :") h)
    · rcases Text.mem_join h with h | ⟨part, hpart, h⟩
      · exact hc ((by decide : str ", " ⊆ str "\x7b\x7d, :") h)
      · obtain ⟨e, he, rfl⟩ := List.mem_map.mp hpart
        rw [List.mem_append, List.mem_append] at h
        rcases h with (h | h) | h
        · exact (hm e he).1 h
        · exact hc ((by decide : str ": " ⊆ str "\x7b\x7d, :") h)
        · exact (hm e he).2 h
    · exact hc ((by decide : str "\x7d" ⊆ str "\x7b\x7d, :") h)
  exact ⟨hrepr, hrepr⟩

namespace FormatSpec

theorem count_pad {spec : FormatSpec} {c : PyChar} (hc : c ≠ PyChar.scalar ' ') (t : Text) :
    (spec.pad t).count c = t.count c := by
  have hb : ∀ n : Nat, (List.replicate n (PyChar.scalar ' ')).count c = 0 := by
    intro n
    rw [List.count_eq_zero]
    intro h
    exact hc (List.eq_of_mem_replicate h)
  unfold pad
  split <;> simp [List.count_append, hb]

theorem count_truncate_le (spec : FormatSpec) (c : PyChar) (t : Text) :
    (spec.truncate t).count c ≤ t.count c := by
  unfold truncate
  split
  · exact Nat.le_refl _
  · exact (List.take_sublist _ _).count_le c

theorem count_pad_truncate (spec : FormatSpec) {c : PyChar} (hc : c ≠ PyChar.scalar ' ')
    (t : Text) : (spec.pad (spec.truncate t)).count c ≤ t.count c := by
  rw [count_pad hc]
  exact count_truncate_le spec c t

/-- A conversion yields at most `n` copies of `c` when the argument's text has at
most `n` and its `repr` none. -/
theorem count_convert_le {u : UnicodeData} {spec : FormatSpec} {type c : PyChar} {arg : FormatArg}
    {t : Text} {n : Nat} (hc : c ≠ PyChar.scalar ' ') (hesc : ¬ IsEscapeChar c)
    (hstr : (arg.toStr u).count c ≤ n) (hrepr : c ∉ arg.repr u)
    (h : spec.convert u type arg = .ok t) : t.count c ≤ n := by
  unfold convert at h
  split at h
  · simp only [Except.ok.injEq] at h
    exact h ▸ Nat.le_trans (count_pad_truncate spec hc _) hstr
  split at h
  · simp only [Except.ok.injEq] at h
    have := count_pad_truncate spec hc (arg.repr u)
    rw [List.count_eq_zero_of_not_mem hrepr] at this
    exact h ▸ Nat.le_trans this (Nat.zero_le n)
  split at h
  · simp only [Except.ok.injEq] at h
    have hascii : c ∉ asciiText (arg.repr u) := by
      intro hmem
      rcases mem_asciiText hmem with hmem | hmem
      · exact hesc hmem
      · exact hrepr hmem
    have := count_pad_truncate spec hc (asciiText (arg.repr u))
    rw [List.count_eq_zero_of_not_mem hascii] at this
    exact h ▸ Nat.le_trans this (Nat.zero_le n)
  split at h
  · split at h
    · simp only [Except.ok.injEq] at h
      rw [← h, count_pad hc]
      exact hstr
    · simp at h
  split at h <;> simp at h

/-- A conversion of a value without percent signs yields none. -/
theorem count_convert_percent {u : UnicodeData} {spec : FormatSpec} {type : PyChar}
    {arg : FormatArg} {t : Text} (harg : arg.Free u (PyChar.scalar '%'))
    (h : spec.convert u type arg = .ok t) : t.count (PyChar.scalar '%') = 0 :=
  Nat.le_zero.mp (count_convert_le (by decide) not_isEscapeChar_percent
    (Nat.le_of_eq (List.count_eq_zero_of_not_mem harg.toStr)) harg.repr h)

end FormatSpec

/-! ## Percent signs over a whole run -/

theorem count_cons_eq (x c : PyChar) (rest : Text) :
    (c :: rest).count x = [c].count x + rest.count x := by
  rw [← List.count_append, List.singleton_append]

theorem count_singleton_of_ne {x c : PyChar} (h : c ≠ x) : [c].count x = 0 :=
  List.count_eq_zero_of_not_mem (by simpa using Ne.symm h)

theorem formatRun_cons {u : UnicodeData} {state : FormatState} {args : FormatArgs} {c : PyChar}
    {rest out : Text} (h : formatRun u state args (c :: rest) = .ok out) :
    (∃ state' args', formatStep u state args c = .ok (.move state' args') ∧
      formatRun u state' args' rest = .ok out) ∨
    (∃ t args' out', formatStep u state args c = .ok (.emit t args') ∧
      formatRun u .literal args' rest = .ok out' ∧ out = t ++ out') := by
  cases hstep : formatStep u state args c with
  | error e =>
    exfalso
    cases state <;> simp [formatRun, hstep, bind, Except.bind] at h
  | ok r =>
    cases r with
    | move state' args' =>
      refine Or.inl ⟨state', args', rfl, ?_⟩
      cases state <;> simpa [formatRun, hstep, bind, Except.bind] using h
    | emit t args' =>
      cases hrest : formatRun u .literal args' rest with
      | error e =>
        exfalso
        cases state <;> simp [formatRun, hstep, hrest, bind, Except.bind] at h
      | ok out' =>
        refine Or.inr ⟨t, args', out', rfl, hrest, ?_⟩
        cases state <;> simpa [formatRun, hstep, hrest, bind, Except.bind, eq_comm] using h

theorem formatRun_nil {u : UnicodeData} {state : FormatState} {args : FormatArgs} {out : Text}
    (h : formatRun u state args [] = .ok out) :
    state = .literal ∧ args.exhausted = true ∧ out = [] := by
  cases state with
  | literal =>
    by_cases ha : args.exhausted = true
    · simp only [formatRun, ha, if_true, Except.ok.injEq] at h
      exact ⟨rfl, ha, h.symm⟩
    · simp [formatRun, ha] at h
  | _ => simp [formatRun] at h

/-- With a tuple of values that have no percent sign, a successful run spends two
percent signs for each one it yields and one for each value. -/
theorem formatRun_positional_spent {u : UnicodeData} {state : FormatState} {values : List Text}
    {fmt out : Text} (hvalues : ∀ v ∈ values, PyChar.scalar '%' ∉ v)
    (h : formatRun u state (.positional values) fmt = .ok out) :
    state.spent + fmt.count (PyChar.scalar '%') =
      2 * out.count (PyChar.scalar '%') + values.length := by
  induction fmt generalizing state values out with
  | nil =>
    obtain ⟨rfl, hargs, rfl⟩ := formatRun_nil h
    have hnil : values = [] := by simpa [FormatArgs.exhausted] using hargs
    subst hnil
    rfl
  | cons c rest ih =>
    rw [count_cons_eq]
    rcases formatRun_cons h with ⟨state', args', hstep, hrun⟩ | ⟨t, args', out', hstep, hrun, rfl⟩
    · cases formatStep_effect hstep with
      | inside hs =>
        have := ih hvalues hrun
        omega
      | select ha => simp [FormatArgs.select] at ha
    · rw [List.count_append]
      cases formatStep_effect hstep with
      | copy hc =>
        have := ih hvalues hrun
        have hzero := count_singleton_of_ne hc
        simp only [FormatState.spent] at this ⊢
        omega
      | percent hs =>
        have := ih hvalues hrun
        simp only [FormatState.spent] at this
        rw [hs, List.count_singleton_self]
        omega
      | consume hs hc ha ht =>
        cases values with
        | nil => simp [FormatArgs.next] at ha
        | cons v values =>
          simp only [FormatArgs.next, Except.ok.injEq, Prod.mk.injEq] at ha
          obtain ⟨rfl, rfl⟩ := ha
          have hv := FormatArg.free_text (u := u) (hvalues v List.mem_cons_self)
          have := ih (fun w hw => hvalues w (List.mem_cons_of_mem _ hw)) hrun
          rw [FormatSpec.count_convert_percent hv ht, count_singleton_of_ne hc, List.length_cons]
          simp only [FormatState.spent] at this
          omega

/-- A mapping whose names have no percent sign and whose values are all the
probe. -/
def ProbeMapping (m : List (Text × Text)) : Prop :=
  ∀ e ∈ m, PyChar.scalar '%' ∉ e.1 ∧ e.2 = [probe]

/-- The states of the right operand that such a mapping leads to. -/
def ProbeArgs (args : FormatArgs) : Prop :=
  ∃ m current used, args = .named m current used ∧ ProbeMapping m ∧
    (current = .mapping m ∨ current = .text [probe])

theorem ProbeArgs.select {args args' : FormatArgs} {key : Text} (h : ProbeArgs args)
    (hs : args.select key = .ok args') : ProbeArgs args' ∧ PyChar.scalar '%' ∉ key := by
  obtain ⟨m, current, used, rfl, hm, -⟩ := h
  simp only [FormatArgs.select] at hs
  cases hl : m.lookup key with
  | none => simp [hl] at hs
  | some v =>
    simp only [hl, Except.ok.injEq] at hs
    obtain ⟨l₁, l₂, rfl, -⟩ := List.lookup_eq_some_iff.mp hl
    have he := hm (key, v) (by simp)
    exact ⟨⟨_, _, _, hs.symm, hm, Or.inr (congrArg FormatArg.text he.2)⟩, he.1⟩

theorem ProbeArgs.next {u : UnicodeData} {args args' : FormatArgs} {arg : FormatArg}
    (h : ProbeArgs args) (hn : args.next = .ok (arg, args')) :
    ProbeArgs args' ∧ arg.Free u (PyChar.scalar '%') ∧ (arg.toStr u).count probe ≤ 1 ∧
      probe ∉ arg.repr u := by
  obtain ⟨m, current, used, rfl, hm, hcur⟩ := h
  cases used with
  | true => simp [FormatArgs.next] at hn
  | false =>
    simp only [FormatArgs.next, Except.ok.injEq, Prod.mk.injEq] at hn
    obtain ⟨rfl, rfl⟩ := hn
    refine ⟨⟨m, current, true, rfl, hm, hcur⟩, ?_⟩
    rcases hcur with rfl | rfl
    · have hpercent : (FormatArg.mapping m).Free u (PyChar.scalar '%') := by
        refine FormatArg.free_mapping (by decide) (fun e he => ?_)
        refine ⟨percent_not_mem_reprText (hm e he).1, percent_not_mem_reprText ?_⟩
        rw [(hm e he).2]
        decide
      have hprobe : (FormatArg.mapping m).Free u probe :=
        FormatArg.free_mapping (by decide)
          (fun e _ => ⟨probe_not_mem_reprText u _, probe_not_mem_reprText u _⟩)
      exact ⟨hpercent,
        Nat.le_trans (Nat.le_of_eq (List.count_eq_zero_of_not_mem hprobe.toStr)) (Nat.zero_le 1),
        hprobe.repr⟩
    · exact ⟨FormatArg.free_text (by decide), by simp [FormatArg.toStr],
        probe_not_mem_reprText u _⟩

/-- With a probe mapping, a successful run spends one percent sign for each
conversion that consumes a value, and yields at most one probe for it. -/
theorem formatRun_named_spent {u : UnicodeData} {state : FormatState} {args : FormatArgs}
    {fmt out : Text} (hargs : ProbeArgs args) (h : formatRun u state args fmt = .ok out) :
    ∃ consumed : Nat,
      state.spent + fmt.count (PyChar.scalar '%') =
        2 * out.count (PyChar.scalar '%') + consumed ∧
      out.count probe ≤ fmt.count probe + consumed := by
  induction fmt generalizing state args out with
  | nil =>
    obtain ⟨rfl, -, rfl⟩ := formatRun_nil h
    exact ⟨0, rfl, Nat.le_refl 0⟩
  | cons c rest ih =>
    rw [count_cons_eq, count_cons_eq probe]
    rcases formatRun_cons h with ⟨state', args', hstep, hrun⟩ | ⟨t, args', out', hstep, hrun, rfl⟩
    · cases formatStep_effect hstep with
      | inside hs =>
        obtain ⟨n, hn, hp⟩ := ih hargs hrun
        exact ⟨n, by omega, by omega⟩
      | select ha =>
        obtain ⟨hargs', hkey⟩ := hargs.select ha
        obtain ⟨n, hn, hp⟩ := ih hargs' hrun
        refine ⟨n, ?_, by omega⟩
        simp only [FormatState.spent, List.count_eq_zero_of_not_mem hkey] at hn ⊢
        rw [count_singleton_of_ne (by decide)]
        omega
    · rw [List.count_append, List.count_append]
      cases formatStep_effect hstep with
      | copy hc =>
        obtain ⟨n, hn, hp⟩ := ih hargs hrun
        have hzero := count_singleton_of_ne hc
        simp only [FormatState.spent] at hn ⊢
        exact ⟨n, by omega, by omega⟩
      | percent hs =>
        obtain ⟨n, hn, hp⟩ := ih hargs hrun
        refine ⟨n, ?_, by omega⟩
        simp only [FormatState.spent] at hn
        rw [hs, List.count_singleton_self]
        omega
      | consume hs hc ha ht =>
        obtain ⟨hargs', hfree, hstr, hrepr⟩ := hargs.next (u := u) ha
        obtain ⟨n, hn, hp⟩ := ih hargs' hrun
        have hpercent := FormatSpec.count_convert_percent hfree ht
        have hone := FormatSpec.count_convert_le (by decide) not_isEscapeChar_probe hstr hrepr ht
        refine ⟨n + 1, ?_, by omega⟩
        rw [hpercent, count_singleton_of_ne hc]
        simp only [FormatState.spent] at hn
        omega

/-! ## Templates -/

/-- A part of a template: literal text, a literal percent sign, or a hole. -/
inductive Piece (κ : Type)
  | text (t : Text)
  | percent
  | hole (k : κ)

abbrev Template (κ : Type) := List (Piece κ)

section Template

variable {κ : Type}

namespace Piece

def render (percent : Text) (hole : κ → Text) : Piece κ → Text
  | .text t => t
  | .percent => percent
  | .hole k => hole k

def hole? : Piece κ → Option κ
  | .hole k => some k
  | _ => none

/-- The copies of `x` literal text brings along. -/
def literal (x : PyChar) : Piece κ → Nat
  | .text t => t.count x
  | _ => 0

def percents : Piece κ → Nat
  | .percent => 1
  | _ => 0

/-- Literal text has no percent sign. -/
def Clean : Piece κ → Prop
  | .text t => PyChar.scalar '%' ∉ t
  | _ => True

@[simp] theorem clean_text {t : Text} : (text t : Piece κ).Clean ↔ PyChar.scalar '%' ∉ t := Iff.rfl

@[simp] theorem clean_percent : (percent : Piece κ).Clean := trivial

@[simp] theorem clean_hole (k : κ) : (hole k).Clean := trivial

@[simp] theorem render_text (percent : Text) (hole : κ → Text) (t : Text) :
    (Piece.text t).render percent hole = t := rfl

@[simp] theorem render_percent (percent : Text) (hole : κ → Text) :
    Piece.percent.render percent hole = percent := rfl

@[simp] theorem render_hole (percent : Text) (hole : κ → Text) (k : κ) :
    (Piece.hole k).render percent hole = hole k := rfl

end Piece

namespace Template

/-- The text of a template under a choice for literal percent signs and holes. -/
def render (percent : Text) (hole : κ → Text) (T : Template κ) : Text :=
  T.flatMap (Piece.render percent hole)

/-- The holes of a template from left to right. -/
def holes (T : Template κ) : List κ := T.filterMap Piece.hole?

/-- The copies of `x` in the literal text of a template. -/
def literal (x : PyChar) (T : Template κ) : Nat := (T.map (Piece.literal x)).sum

/-- The percent signs in the literal text of a template. -/
def stray (T : Template κ) : Nat := T.literal (PyChar.scalar '%')

/-- The percent signs that are meant literally. -/
def percents (T : Template κ) : Nat := (T.map Piece.percents).sum

/-- The text a template stands for. -/
def fill (σ : κ → Text) (T : Template κ) : Text := T.render (str "%") σ

/-- The format a template stands for, given the placeholder of each hole. -/
def format (placeholder : κ → Text) (T : Template κ) : Text := T.render (str "%%") placeholder

/-- No percent sign stands in the literal text of a template. -/
theorem stray_eq_zero_iff {T : Template κ} : T.stray = 0 ↔ ∀ p ∈ T, p.Clean := by
  induction T with
  | nil => simp [stray, literal]
  | cons p T ih =>
    rw [List.forall_mem_cons, ← ih, stray, literal, List.map_cons, List.sum_cons,
      Nat.add_eq_zero_iff, ← literal, ← stray]
    cases p with
    | text t => simp only [Piece.literal, Piece.Clean, List.count_eq_zero]
    | percent => simp only [Piece.literal, Piece.Clean]
    | hole k => simp only [Piece.literal, Piece.Clean]

@[simp] theorem render_nil (percent : Text) (hole : κ → Text) :
    render percent hole ([] : Template κ) = [] := rfl

@[simp] theorem render_cons (percent : Text) (hole : κ → Text) (p : Piece κ) (T : Template κ) :
    render percent hole (p :: T) = p.render percent hole ++ render percent hole T := rfl

@[simp] theorem render_append (percent : Text) (hole : κ → Text) (S T : Template κ) :
    render percent hole (S ++ T) = render percent hole S ++ render percent hole T := by
  simp [render]

@[simp] theorem holes_nil : holes ([] : Template κ) = [] := rfl

@[simp] theorem holes_text (t : Text) (T : Template κ) : holes (.text t :: T) = holes T := rfl

@[simp] theorem holes_percent (T : Template κ) : holes (.percent :: T) = holes T := rfl

@[simp] theorem holes_hole (k : κ) (T : Template κ) : holes (.hole k :: T) = k :: holes T := rfl

@[simp] theorem holes_append (S T : Template κ) : holes (S ++ T) = holes S ++ holes T := by
  simp [holes]

@[simp] theorem literal_nil (x : PyChar) : literal x ([] : Template κ) = 0 := rfl

@[simp] theorem literal_cons (x : PyChar) (p : Piece κ) (T : Template κ) :
    literal x (p :: T) = p.literal x + literal x T := by
  simp [literal]

@[simp] theorem literal_append (x : PyChar) (S T : Template κ) :
    literal x (S ++ T) = literal x S + literal x T := by
  simp [literal]

@[simp] theorem percents_nil : percents ([] : Template κ) = 0 := rfl

@[simp] theorem percents_cons (p : Piece κ) (T : Template κ) :
    percents (p :: T) = p.percents + percents T := by
  simp [percents]

/-- Templates with literal text between them. -/
def join (sep : Text) : List (Template κ) → Template κ
  | [] => []
  | [T] => T
  | T :: U :: Ts => T ++ .text sep :: join sep (U :: Ts)

@[simp] theorem render_join (percent : Text) (hole : κ → Text) (sep : Text)
    (Ts : List (Template κ)) :
    render percent hole (join sep Ts) = Text.join sep (Ts.map (render percent hole)) := by
  induction Ts with
  | nil => rfl
  | cons T Ts ih =>
    cases Ts with
    | nil => simp [join]
    | cons U Ts =>
      rw [join, render_append, render_cons, Piece.render_text, ih]
      simp only [List.map_cons, Text.join_cons_cons, List.append_assoc]

@[simp] theorem holes_join (sep : Text) (Ts : List (Template κ)) :
    holes (join sep Ts) = Ts.flatMap holes := by
  induction Ts with
  | nil => rfl
  | cons T Ts ih =>
    cases Ts with
    | nil => simp [join]
    | cons U Ts => rw [join, holes_append, holes_text, ih, ← List.flatMap_cons]

theorem clean_join {sep : Text} (hsep : PyChar.scalar '%' ∉ sep) {Ts : List (Template κ)} :
    (∀ p ∈ join sep Ts, p.Clean) ↔ ∀ T ∈ Ts, ∀ p ∈ T, p.Clean := by
  induction Ts with
  | nil => simp [join]
  | cons T Ts ih =>
    cases Ts with
    | nil => simp [join]
    | cons U Ts =>
      rw [join, List.forall_mem_append, List.forall_mem_cons, ih, List.forall_mem_cons (a := T)]
      simp [hsep]

/-- Renderings that agree on the holes agree. -/
theorem render_congr {percent : Text} {hole hole' : κ → Text} {T : Template κ}
    (h : ∀ k ∈ T.holes, hole k = hole' k) : T.render percent hole = T.render percent hole' := by
  induction T with
  | nil => rfl
  | cons p T ih =>
    cases p with
    | text t => rw [render_cons, render_cons, ih h, Piece.render_text, Piece.render_text]
    | percent => rw [render_cons, render_cons, ih h, Piece.render_percent, Piece.render_percent]
    | hole k =>
      simp only [holes_hole, List.mem_cons, forall_eq_or_imp] at h
      rw [render_cons, render_cons, ih h.2, Piece.render_hole, Piece.render_hole, h.1]

theorem count_render {x : PyChar} {percent : Text} {hole : κ → Text} {n : Nat} (T : Template κ)
    (hhole : ∀ k ∈ T.holes, (hole k).count x = n) :
    (T.render percent hole).count x =
      T.literal x + T.percents * percent.count x + T.holes.length * n := by
  induction T with
  | nil => simp
  | cons p T ih =>
    rw [render_cons, List.count_append, literal_cons, percents_cons, Nat.add_mul]
    cases p with
    | text t =>
      rw [ih hhole, Piece.render_text, holes_text]
      simp only [Piece.literal, Piece.percents]
      omega
    | percent =>
      rw [ih hhole, Piece.render_percent, holes_percent]
      simp only [Piece.literal, Piece.percents]
      omega
    | hole k =>
      simp only [holes_hole, List.mem_cons, forall_eq_or_imp] at hhole
      rw [ih hhole.2, Piece.render_hole, hhole.1, holes_hole, List.length_cons, Nat.add_mul]
      simp only [Piece.literal, Piece.percents]
      omega

/-- The percent signs of a format whose placeholders have one each. -/
theorem count_format {placeholder : κ → Text} (T : Template κ)
    (hp : ∀ k ∈ T.holes, (placeholder k).count (PyChar.scalar '%') = 1) :
    (T.format placeholder).count (PyChar.scalar '%') =
      T.stray + 2 * T.percents + T.holes.length := by
  rw [format, count_render T hp, show (str "%%").count (PyChar.scalar '%') = 2 by decide, stray]
  omega

/-- The percent signs of the text, when the values have none. -/
theorem count_fill {σ : κ → Text} (T : Template κ)
    (hσ : ∀ k ∈ T.holes, PyChar.scalar '%' ∉ σ k) :
    (T.fill σ).count (PyChar.scalar '%') = T.stray + T.percents := by
  rw [fill, count_render T (fun k hk => List.count_eq_zero_of_not_mem (hσ k hk)),
    show (str "%").count (PyChar.scalar '%') = 1 by decide, stray]
  omega

theorem not_mem_of_stray_eq_zero {t : Text} {T : Template κ} (h : stray (.text t :: T) = 0) :
    PyChar.scalar '%' ∉ t ∧ stray T = 0 := by
  rw [stray, literal_cons, Nat.add_eq_zero_iff] at h
  exact ⟨List.count_eq_zero.mp h.1, h.2⟩

theorem stray_cons_hole {k : κ} {T : Template κ} : stray (.hole k :: T) = stray T := by
  simp [stray, Piece.literal]

theorem stray_cons_percent {T : Template κ} : stray (.percent :: T) = stray T := by
  simp [stray, Piece.literal]

end Template

/-! ## Running a format piece by piece -/

theorem formatRun_copy {u : UnicodeData} {args : FormatArgs} {c : PyChar}
    (hc : c ≠ PyChar.scalar '%') (rest : Text) :
    formatRun u .literal args (c :: rest) =
      (formatRun u .literal args rest).map ([c] ++ ·) := by
  simp only [formatRun, formatStep, hc, if_false, bind, Except.bind]
  cases formatRun u .literal args rest <;> rfl

/-- Text without percent signs is copied. -/
theorem formatRun_text {u : UnicodeData} {args : FormatArgs} {t : Text}
    (ht : PyChar.scalar '%' ∉ t) (rest : Text) :
    formatRun u .literal args (t ++ rest) = (formatRun u .literal args rest).map (t ++ ·) := by
  induction t with
  | nil =>
    rw [List.nil_append]
    cases formatRun u .literal args rest <;> rfl
  | cons c t ih =>
    rw [List.mem_cons, not_or] at ht
    rw [List.cons_append, formatRun_copy (Ne.symm ht.1), ih ht.2]
    cases formatRun u .literal args rest <;> rfl

/-- A doubled percent sign yields one. -/
theorem formatRun_doubled {u : UnicodeData} {args : FormatArgs} (rest : Text) :
    formatRun u .literal args (str "%%" ++ rest) =
      (formatRun u .literal args rest).map (str "%" ++ ·) := by
  show formatRun u .percent args (PyChar.scalar '%' :: rest) = _
  simp only [formatRun, formatStep, if_true, bind, Except.bind]
  cases formatRun u .literal args rest <;> rfl

/-- A specifier that is only its conversion type `s`. -/
theorem afterFlags_s {u : UnicodeData} (args : FormatArgs) (arg : FormatArg) {args' : FormatArgs}
    (h : args.next = .ok (arg, args')) :
    ({} : FormatSpec).afterFlags u (PyChar.scalar 's') args = .ok (.emit (arg.toStr u) args') := by
  simp [FormatSpec.afterFlags, FormatSpec.afterWidth, FormatSpec.afterPrecision, isFormatFlag,
    isLengthModifier, PyChar.isAsciiDigit, FormatSpec.finishStep, FormatSpec.finish, h,
    FormatSpec.convert, FormatSpec.truncate, FormatSpec.pad, bind, Except.bind]

/-- `%s` yields the next value of a tuple. -/
theorem formatRun_positional {u : UnicodeData} {value : Text} {values : List Text} (rest : Text) :
    formatRun u .literal (.positional (value :: values)) (str "%s" ++ rest) =
      (formatRun u .literal (.positional values) rest).map (value ++ ·) := by
  have hstep : formatStep u .percent (.positional (value :: values)) (PyChar.scalar 's') =
      .ok (.emit value (.positional values)) :=
    afterFlags_s (.positional (value :: values)) (.text value) rfl
  show formatRun u .percent (.positional (value :: values)) (PyChar.scalar 's' :: rest) = _
  simp only [formatRun, hstep, bind, Except.bind]
  cases formatRun u .literal (.positional values) rest <;> rfl

/-- Reading a mapping key that has no parenthesis. -/
theorem formatRun_key {u : UnicodeData} {args : FormatArgs} {name : Text}
    (hname : ∀ c ∈ name, c ≠ PyChar.scalar '(' ∧ c ≠ PyChar.scalar ')') (read rest : Text) :
    formatRun u (.key 0 read) args (name ++ rest) =
      formatRun u (.key 0 (read ++ name)) args rest := by
  induction name generalizing read with
  | nil => rw [List.nil_append, List.append_nil]
  | cons c name ih =>
    have hc := hname c List.mem_cons_self
    have hrest := ih (fun d hd => hname d (List.mem_cons_of_mem _ hd)) (read ++ [c])
    rw [List.append_assoc, List.singleton_append] at hrest
    rw [← hrest, List.cons_append]
    simp [formatRun, formatStep, hc.1, hc.2, bind, Except.bind]

/-- The placeholder of a named value. -/
def namedPlaceholder (name : Text) : Text := str "%(" ++ name ++ str ")s"

/-- `%(name)s` yields the value of the name in a mapping. -/
theorem formatRun_named {u : UnicodeData} {mapping : List (Text × Text)} {current : FormatArg}
    {used : Bool} {name value : Text}
    (hname : ∀ c ∈ name, c ≠ PyChar.scalar '(' ∧ c ≠ PyChar.scalar ')')
    (hvalue : mapping.lookup name = some value) (rest : Text) :
    formatRun u .literal (.named mapping current used) (namedPlaceholder name ++ rest) =
      (formatRun u .literal (.named mapping (.text value) true) rest).map (value ++ ·) := by
  have hstep : formatStep u (.flags {}) (.named mapping (.text value) false) (PyChar.scalar 's') =
      .ok (.emit value (.named mapping (.text value) true)) :=
    afterFlags_s (.named mapping (.text value) false) (.text value) rfl
  have hclose : formatStep u (.key 0 ([] ++ name)) (.named mapping current used)
      (PyChar.scalar ')') = .ok (.move (.flags {}) (.named mapping (.text value) false)) := by
    simp [formatStep, FormatArgs.select, hvalue, bind, Except.bind]
  have hread : formatRun u .literal (.named mapping current used) (namedPlaceholder name ++ rest) =
      formatRun u (.key 0 []) (.named mapping current used) (name ++ (str ")s" ++ rest)) := by
    rw [namedPlaceholder, List.append_assoc, List.append_assoc]
    rfl
  rw [hread, formatRun_key hname]
  show formatRun u _ _ (PyChar.scalar ')' :: PyChar.scalar 's' :: rest) = _
  simp only [formatRun, hclose, hstep, bind, Except.bind]
  cases formatRun u .literal (.named mapping (.text value) true) rest <;> rfl

/-! ## When a format produces the text it stands for -/

theorem percentFormat_format {u : UnicodeData} {σ : κ → Text} {T : Template κ} (hT : T.stray = 0) :
    percentFormat u (T.format fun _ => str "%s") (T.holes.map σ) = .ok (T.fill σ) := by
  unfold percentFormat Template.format Template.fill
  induction T with
  | nil => rfl
  | cons p T ih =>
    rw [Template.render_cons, Template.render_cons]
    cases p with
    | text t =>
      obtain ⟨ht, hT⟩ := Template.not_mem_of_stray_eq_zero hT
      rw [Piece.render_text, formatRun_text ht, Template.holes_text, ih hT]
      rfl
    | percent =>
      rw [Piece.render_percent, formatRun_doubled, Template.holes_percent,
        ih (Template.stray_cons_percent ▸ hT)]
      rfl
    | hole k =>
      rw [Piece.render_hole, Template.holes_hole, List.map_cons, formatRun_positional,
        ih (Template.stray_cons_hole ▸ hT)]
      rfl

/-- Formatting a template's format with a tuple of values that have no percent
sign produces its text exactly when its literal text has none either. -/
theorem percentFormat_template_iff {u : UnicodeData} {σ : κ → Text} {T : Template κ}
    (hσ : ∀ k ∈ T.holes, PyChar.scalar '%' ∉ σ k) :
    percentFormat u (T.format fun _ => str "%s") (T.holes.map σ) = .ok (T.fill σ) ↔
      T.stray = 0 := by
  refine ⟨fun h => ?_, percentFormat_format⟩
  have hvalues : ∀ v ∈ T.holes.map σ, PyChar.scalar '%' ∉ v := by
    intro v hv
    obtain ⟨k, hk, rfl⟩ := List.mem_map.mp hv
    exact hσ k hk
  have hspent := formatRun_positional_spent hvalues h
  rw [Template.count_format T (fun _ _ => by decide), Template.count_fill T hσ,
    List.length_map] at hspent
  simp only [FormatState.spent] at hspent
  omega

theorem percentFormatMapping_format {u : UnicodeData} {name : κ → Text}
    {mapping : List (Text × Text)} {σ : Text → Text} {T : Template κ}
    (hname : ∀ k ∈ T.holes, ∀ c ∈ name k, c ≠ PyChar.scalar '(' ∧ c ≠ PyChar.scalar ')')
    (hmap : ∀ k ∈ T.holes, mapping.lookup (name k) = some (σ (name k))) (hT : T.stray = 0) :
    percentFormatMapping u (T.format fun k => namedPlaceholder (name k)) mapping =
      .ok (T.fill fun k => σ (name k)) := by
  have hrun : ∀ (current : FormatArg) (used : Bool),
      formatRun u .literal (.named mapping current used)
          (T.format fun k => namedPlaceholder (name k)) =
        .ok (T.fill fun k => σ (name k)) := by
    unfold Template.format Template.fill
    induction T with
    | nil => exact fun _ _ => rfl
    | cons p T ih =>
      intro current used
      rw [Template.render_cons, Template.render_cons]
      cases p with
      | text t =>
        obtain ⟨ht, hT⟩ := Template.not_mem_of_stray_eq_zero hT
        rw [Piece.render_text, formatRun_text ht, ih hname hmap hT]
        rfl
      | percent =>
        rw [Piece.render_percent, formatRun_doubled,
          ih hname hmap (Template.stray_cons_percent ▸ hT)]
        rfl
      | hole k =>
        simp only [Template.holes_hole, List.mem_cons, forall_eq_or_imp] at hname hmap
        rw [Piece.render_hole, formatRun_named hname.1 hmap.1,
          ih hname.2 hmap.2 (Template.stray_cons_hole ▸ hT)]
        rfl
  exact hrun _ _

/-- The mapping that assigns `σ name` to every name of a list. -/
def assignment (names : List Text) (σ : Text → Text) : List (Text × Text) :=
  names.map fun n => (n, σ n)

theorem lookup_assignment {names : List Text} {σ : Text → Text} {n : Text} (h : n ∈ names) :
    (assignment names σ).lookup n = some (σ n) := by
  induction names with
  | nil => simp at h
  | cons m names ih =>
    rw [assignment, List.map_cons, List.lookup_cons]
    by_cases hm : n = m
    · subst hm
      simp
    · rw [beq_false_of_ne hm, ← assignment]
      exact ih ((List.mem_cons.mp h).resolve_left hm)

/-- Names that a placeholder can carry have none of the code points that would end or start
one. -/
theorem not_mem_of_isNameChar {names : List Text} (hnames : ∀ n ∈ names, ∀ c ∈ n, c.isNameChar = true)
    {x : PyChar} (hx : x.isNameChar = false) : ∀ n ∈ names, x ∉ n := by
  intro n hn hmem
  rw [hnames n hn x hmem] at hx
  cases hx

/-- A format that produces its text from the probe has no percent sign in its literal text. -/
theorem stray_eq_zero_of_probe {u : UnicodeData} {name : κ → Text} {names : List Text}
    {T : Template κ} (hnames : ∀ n ∈ names, ∀ c ∈ n, c.isNameChar = true)
    (hT : ∀ k ∈ T.holes, name k ∈ names)
    (h : percentFormatMapping u (T.format fun k => namedPlaceholder (name k))
      (assignment names fun _ => [probe]) = .ok (T.fill fun _ => [probe])) : T.stray = 0 := by
  have hprobe : ProbeArgs (.named (assignment names fun _ => [probe])
      (.mapping (assignment names fun _ => [probe])) false) := by
    refine ⟨_, _, _, rfl, ?_, Or.inl rfl⟩
    intro e he
    obtain ⟨n, hn, rfl⟩ := List.mem_map.mp he
    exact ⟨not_mem_of_isNameChar hnames (by decide) n hn, rfl⟩
  obtain ⟨consumed, hspent, hyield⟩ := formatRun_named_spent hprobe h
  have hplaceholder : ∀ k ∈ T.holes,
      (namedPlaceholder (name k)).count (PyChar.scalar '%') = 1 := by
    intro k hk
    rw [namedPlaceholder, List.count_append, List.count_append, List.count_eq_zero_of_not_mem
      (not_mem_of_isNameChar hnames (by decide) _ (hT k hk))]
    rfl
  have hclean : ∀ k ∈ T.holes, (namedPlaceholder (name k)).count probe = 0 := by
    intro k hk
    rw [namedPlaceholder, List.count_append, List.count_append, List.count_eq_zero_of_not_mem
      (not_mem_of_isNameChar hnames (by decide) _ (hT k hk))]
    rfl
  rw [Template.count_format T hplaceholder, Template.count_fill T (fun _ _ => by decide)]
    at hspent
  rw [Template.fill, Template.format, Template.count_render T hclean,
    Template.count_render (n := 1) T (fun _ _ => by decide),
    show (str "%%").count probe = 0 by decide, show (str "%").count probe = 0 by decide] at hyield
  simp only [FormatState.spent] at hspent
  omega

/-- Formatting a template's format with every assignment of texts to its names
produces its text exactly when its literal text has no percent sign. -/
theorem percentFormatMapping_template_iff {u : UnicodeData} {name : κ → Text} {names : List Text}
    {T : Template κ} (hnames : ∀ n ∈ names, ∀ c ∈ n, c.isNameChar = true)
    (hT : ∀ k ∈ T.holes, name k ∈ names) :
    (∀ σ : Text → Text,
      percentFormatMapping u (T.format fun k => namedPlaceholder (name k)) (assignment names σ) =
        .ok (T.fill fun k => σ (name k))) ↔
      T.stray = 0 := by
  constructor
  · intro h
    exact stray_eq_zero_of_probe hnames hT (h fun _ => [probe])
  · intro hstray σ
    refine percentFormatMapping_format (fun k hk c hc => ?_)
      (fun k hk => lookup_assignment (hT k hk)) hstray
    have hchar := hnames _ (hT k hk) c hc
    constructor <;> (rintro rfl; exact absurd hchar (by decide))

end Template

end Python
end DaftOlap
