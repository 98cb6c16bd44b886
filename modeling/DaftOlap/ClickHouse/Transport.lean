/-
Transport types are closed under the rewriter and fixed by it.

A stable type is accepted, rewritten to itself, free of the constructors that the
rewriter replaces, and closed.  Every type built from stable ones is stable, and so is
what the rewriter returns, by induction on the length of the declared type.
-/
import DaftOlap.ClickHouse.TypeRules

namespace DaftOlap
namespace ClickHouse

open Python Logic

/-- The constructors that have another transport type. -/
def rewrittenTypes : List Text :=
  ["Date", "DateTime", "UUID", "IPv4", "IPv6", "Enum8", "Enum16"].map str

/-- A constructor occurs in the parse tree of a type, whichever way the elements of a
tuple are read. -/
inductive Occurs (name : Text) : Text → Prop
  | root {value : Text} {parsed : ClickHouseType} :
      parseClickHouseType value = .ok parsed → parsed.name = name → Occurs name value
  | argument {value argument : Text} {parsed : ClickHouseType} :
      parseClickHouseType value = .ok parsed → argument ∈ parsed.arguments →
      Occurs name argument → Occurs name value
  | field {value argument field type : Text} {parsed : ClickHouseType} :
      parseClickHouseType value = .ok parsed → argument ∈ parsed.arguments →
      tupleField argument = some (field, type) → Occurs name type → Occurs name value

/-- What a transport type is. -/
structure Stable (t : Text) : Prop where
  accepted : validateTypeExpression t = .ok ()
  fixed : transportTypeExpression t = .ok t
  free : ∀ name ∈ rewrittenTypes, ¬ Occurs name t
  closed : Closed t

variable {name type value : Text} {parsed : ClickHouseType}

/-! ## Occurrences -/

theorem Occurs.written (h : Occurs name value) : ∃ parsed, Written (Text.strip value) parsed := by
  cases h with
  | root hparse _ => exact ⟨_, parseClickHouseType_eq_ok.mp hparse⟩
  | argument hparse _ _ => exact ⟨_, parseClickHouseType_eq_ok.mp hparse⟩
  | field hparse _ _ _ => exact ⟨_, parseClickHouseType_eq_ok.mp hparse⟩

/-- No rewritten constructor occurs in a text, read as a type or as a field. -/
structure Free (t : Text) : Prop where
  type : ∀ name ∈ rewrittenTypes, ¬ Occurs name t
  field : ∀ field type, tupleField t = some (field, type) →
    ∀ name ∈ rewrittenTypes, ¬ Occurs name type

theorem not_occurs_of_free {t : Text} {arguments : List Text}
    (hparse : parseClickHouseType t = .ok ⟨name, arguments⟩) (hname : name ∉ rewrittenTypes)
    (harguments : ∀ argument ∈ arguments, Free argument) :
    ∀ other ∈ rewrittenTypes, ¬ Occurs other t := by
  intro other hother h
  cases h with
  | root hroot heq =>
    obtain rfl := Except.ok.inj (hparse.symm.trans hroot)
    rw [show name = other from heq] at hname
    exact hname hother
  | argument hroot hargument hoccurs =>
    obtain rfl := Except.ok.inj (hparse.symm.trans hroot)
    exact (harguments _ hargument).type other hother hoccurs
  | field hroot hargument hfield hoccurs =>
    obtain rfl := Except.ok.inj (hparse.symm.trans hroot)
    exact (harguments _ hargument).field _ _ hfield other hother hoccurs

theorem Stable.written {t : Text} (h : Stable t) (htrimmed : Trimmed t) :
    ∃ parsed, Written t parsed := by
  obtain ⟨parsed, hparse, -⟩ := valid_iff.mp h.accepted
  have hwritten := parseClickHouseType_eq_ok.mp hparse
  rw [Text.strip_of_trimmed htrimmed] at hwritten
  exact ⟨parsed, hwritten⟩

/-- A stable type is also free when it stands in a tuple. -/
theorem Stable.free_element {t : Text} (h : Stable t) (htrimmed : Trimmed t) : Free t := by
  refine ⟨h.free, ?_⟩
  intro field type hfield name hname hoccurs
  obtain ⟨parsed, hwritten⟩ := h.written htrimmed
  obtain ⟨inner, hinner⟩ := hoccurs.written
  exact not_written_tupleField hwritten hfield inner hinner

/-- Integers and time zones are neither types nor fields. -/
theorem free_of_leaf {t : Text} (h : isInteger t = true ∨ isTimeZone t = true) : Free t := by
  have hhead : ∃ c rest, t = c :: rest ∧ c.isNameStart = false ∧ c ≠ '`' ∧ c.isSpace = false := by
    rcases h with hinteger | hzone
    · obtain ⟨c, rest, rfl, hdigit⟩ := integer_head hinteger
      have hord := ord_of_isAsciiDigit hdigit
      refine ⟨c, rest, rfl, ?_, ?_, isSpace_of_isAsciiDigit hdigit⟩
      · rw [Bool.eq_false_iff]
        intro hstart
        simp only [PyChar.isNameStart, Bool.or_eq_true, beq_iff_eq] at hstart
        rcases hstart with hletter | hunderscore
        · have := ord_of_isAsciiLetter hletter
          omega
        · rw [hunderscore] at hdigit
          cases hdigit
      · intro hc
        rw [hc] at hdigit
        cases hdigit
    · obtain ⟨body, rfl, -, -⟩ := timeZone_body hzone
      exact ⟨_, _, rfl, rfl, by decide, rfl⟩
  obtain ⟨c, rest, rfl, hstart, hquote, hspace⟩ := hhead
  have hfield : tupleField (c :: rest) = none := by
    have hname : fieldName? (c :: rest) = none := by
      rw [fieldName?, if_neg hquote, Text.parameterName?, hstart]
      rfl
    unfold tupleField
    rw [hname]
    rfl
  constructor
  · intro name hname hoccurs
    obtain ⟨parsed, hwritten⟩ := hoccurs.written
    obtain ⟨d, u, htext, hletter⟩ := hwritten.head
    obtain rfl := strip_head rfl hspace (congrArg List.head? htext)
    rw [PyChar.isNameStart, hletter] at hstart
    cases hstart
  · intro field type hsome
    rw [hfield] at hsome
    cases hsome

/-! ## Stable types -/

theorem Verbatim.leaves (h : Verbatim parsed) : ∀ argument ∈ parsed.arguments,
    isInteger argument = true ∨ isTimeZone argument = true := by
  cases h with
  | fixedString hinteger _ _ => simpa using Or.inl hinteger
  | decimalScale _ hinteger _ _ => simpa using Or.inl hinteger
  | decimal hprecision hscale _ _ _ _ _ => simp [hprecision, hscale]
  | dateTime64 hprecision _ _ hzone =>
    intro argument hargument
    rcases List.mem_cons.mp hargument with rfl | hargument
    · exact Or.inl hprecision
    · exact Or.inr (hzone argument (Option.mem_toList.mp hargument))

theorem Verbatim.not_rewritten (h : Verbatim parsed) : parsed.name ∉ rewrittenTypes := by
  have hnames : ∀ name ∈ [str "FixedString", str "Decimal", str "DateTime64"] ++
      decimalScaleLimits.map Prod.fst, name ∉ rewrittenTypes := by decide
  cases h with
  | fixedString _ _ _ => exact hnames _ (by simp)
  | decimalScale hlimit _ _ _ =>
    exact hnames _ (List.mem_append_right _ (List.mem_map_of_mem hlimit))
  | decimal _ _ _ _ _ _ _ => exact hnames _ (by simp)
  | dateTime64 _ _ _ _ => exact hnames _ (by simp)

theorem stable_verbatim {t : Text} (hwritten : Written t parsed) (h : Verbatim parsed) :
    Stable t := by
  have hparse := hwritten.parse_eq_ok
  have hfixed := transport_verbatim hparse h
  rw [Text.strip_of_trimmed hwritten.trimmed] at hfixed
  exact ⟨valid_of_verbatim hparse h, hfixed,
    not_occurs_of_free hparse h.not_rewritten fun argument hargument =>
      free_of_leaf (h.leaves argument hargument), hwritten.closed⟩

/-- What the rewriter makes of a type without arguments. -/
theorem simpleTransport_names : ∀ name ∈ simpleTypes, name ∉ unsupportedSimple →
    simpleTransport name ∈ simpleTypes ∧ simpleTransport name ∉ unsupportedSimple ∧
      simpleTransport name ∉ rewrittenTypes ∧ isTypeName (simpleTransport name) = true ∧
      simpleTransport (simpleTransport name) = simpleTransport name := by
  decide +kernel

theorem stable_simple (hsimple : name ∈ simpleTypes) (hplain : name ∉ unsupportedSimple) :
    Stable (simpleTransport name) ∧ Trimmed (simpleTransport name) := by
  obtain ⟨hsimple', hplain', hname, htype, hfixed⟩ := simpleTransport_names name hsimple hplain
  have hwritten := Written.bare htype
  have hparse := hwritten.parse_eq_ok
  refine ⟨⟨valid_of_supported hparse (.simple hsimple' hplain'), ?_, ?_, hwritten.closed⟩,
    hwritten.trimmed⟩
  · rw [transport_simple hparse hsimple' hplain', hfixed]
  · exact not_occurs_of_free hparse hname fun argument hargument => by cases hargument

theorem Stable.argument {t : Text} (h : Stable t) (htrimmed : Trimmed t) : Argument t := by
  obtain ⟨parsed, hwritten⟩ := h.written htrimmed
  exact hwritten.argument

theorem stable_nested {ts : List Text} (hname : name ∈ wrapperTypes ∨ name = str "Map")
    (hne : ts ≠ []) (hsupported : Supported ⟨name, ts⟩)
    (h : ∀ t ∈ ts, Stable t ∧ Trimmed t) :
    Stable (name ++ str "(" ++ Text.join (str ", ") ts ++ str ")") := by
  have hnames : ∀ name ∈ str "Map" :: wrapperTypes,
      isTypeName name = true ∧ name ∉ rewrittenTypes := by decide
  have htype := hnames name (by rw [List.mem_cons]; exact hname.symm)
  have hwritten := written_printed htype.1 hne fun t ht => (h t ht).1.argument (h t ht).2
  have hparse := hwritten.parse_eq_ok
  have hvalid := valid_of_supported hparse hsupported
  have hts : ts.mapM transportTypeExpression = .ok ts := by
    have := mapM_eq_ok_map (g := id) fun t ht => (h t ht).1.fixed
    rwa [List.map_id] at this
  exact ⟨hvalid, transport_nested hvalid hparse hname hts,
    not_occurs_of_free hparse htype.2 fun t ht => (h t ht).1.free_element (h t ht).2,
    hwritten.closed⟩

/-- What the rewriter makes of an element of a tuple. -/
inductive StableElement : Text → Prop
  | type {t : Text} : Stable t → Trimmed t → StableElement t
  | field {field t : Text} : FieldName field → PyChar.scalar '\n' ∉ t → Stable t → Trimmed t →
      StableElement (field ++ str " " ++ t)

/-- A printed field is refused as a type and read back as a field. -/
theorem read_field {field type : Text} (hfield : FieldName field)
    (hline : PyChar.scalar '\n' ∉ type) (hwritten : Written type parsed) :
    (∀ other, ¬ Written (field ++ str " " ++ type) other) ∧
      Refused (field ++ str " " ++ type) ∧
      tupleField (field ++ str " " ++ type) = some (field, type) := by
  obtain ⟨c, rest, rfl, hletter⟩ := hwritten.head
  have hspace : c.isSpace = false := by
    apply isSpace_of_isNameChar
    rw [PyChar.isNameChar, hletter]
    rfl
  have hnot := not_written_field hfield (rfl : (c :: rest).head? = some c) hletter
  refine ⟨hnot, refused_of_not_written ?_, tupleField_printed hfield hspace hline⟩
  rw [Text.strip_of_trimmed (argument_field hfield hwritten.argument).trimmed]
  exact hnot

namespace StableElement

variable {t : Text}

theorem argument (h : StableElement t) : Argument t := by
  cases h with
  | type hstable htrimmed => exact hstable.argument htrimmed
  | field hfield _ hstable htrimmed => exact argument_field hfield (hstable.argument htrimmed)

theorem element (h : StableElement t) : Element t := by
  cases h with
  | type hstable _ => exact .type hstable.accepted
  | field hfield hline hstable htrimmed =>
    obtain ⟨parsed, hwritten⟩ := hstable.written htrimmed
    obtain ⟨-, hrefused, hread⟩ := read_field hfield hline hwritten
    exact .field hrefused hread hstable.accepted

theorem fixed (h : StableElement t) : transportElement t = .ok t := by
  cases h with
  | type hstable _ => exact transportElement_type hstable.fixed
  | field hfield hline hstable htrimmed =>
    obtain ⟨parsed, hwritten⟩ := hstable.written htrimmed
    obtain ⟨-, hrefused, hread⟩ := read_field hfield hline hwritten
    exact transportElement_field hrefused hread hstable.fixed

theorem free (h : StableElement t) : Free t := by
  cases h with
  | type hstable htrimmed => exact hstable.free_element htrimmed
  | field hfield hline hstable htrimmed =>
    obtain ⟨parsed, hwritten⟩ := hstable.written htrimmed
    obtain ⟨hnot, -, hread⟩ := read_field hfield hline hwritten
    have htrimmed' := (argument_field hfield hwritten.argument).trimmed
    constructor
    · intro name hname hoccurs
      obtain ⟨other, hother⟩ := hoccurs.written
      rw [Text.strip_of_trimmed htrimmed'] at hother
      exact hnot other hother
    · intro field' type' hread'
      obtain ⟨-, rfl⟩ := Prod.mk.inj (Option.some.inj (hread.symm.trans hread'))
      exact hstable.free

end StableElement

theorem stable_tuple {ts : List Text} (hne : ts ≠ []) (h : ∀ t ∈ ts, StableElement t) :
    Stable (str "Tuple(" ++ Text.join (str ", ") ts ++ str ")") := by
  have hname : isTypeName (str "Tuple") = true ∧ str "Tuple" ∉ rewrittenTypes := by decide
  have hwritten : Written (str "Tuple(" ++ Text.join (str ", ") ts ++ str ")")
      ⟨str "Tuple", ts⟩ := written_printed hname.1 hne fun t ht => (h t ht).argument
  have hparse := hwritten.parse_eq_ok
  have hvalid := valid_of_supported hparse (.tuple hne fun t ht => (h t ht).element)
  have hts : ts.mapM transportElement = .ok ts := by
    have := mapM_eq_ok_map (g := id) fun t ht => (h t ht).fixed
    rwa [List.map_id] at this
  exact ⟨hvalid, transport_tuple hvalid hparse hts,
    not_occurs_of_free hparse hname.2 fun t ht => (h t ht).free, hwritten.closed⟩

/-! ## The rewriter -/

/-- What the rewriter returns. -/
structure Rewritten (value t : Text) : Prop where
  transported : transportTypeExpression value = .ok t
  stable : Stable t
  trimmed : Trimmed t
  line : PyChar.scalar '\n' ∉ value → PyChar.scalar '\n' ∉ t

theorem line_printed {ts : List Text} (hname : PyChar.scalar '\n' ∉ name)
    (h : ∀ t ∈ ts, PyChar.scalar '\n' ∉ t) :
    PyChar.scalar '\n' ∉ name ++ str "(" ++ Text.join (str ", ") ts ++ str ")" := by
  intro hmem
  rw [List.mem_append, List.mem_append, List.mem_append] at hmem
  rcases hmem with ((hmem | hmem) | hmem) | hmem
  · exact hname hmem
  · exact absurd hmem (by decide)
  · rcases Text.mem_join hmem with hsep | hpart
    · exact absurd hsep (by decide)
    · obtain ⟨t, ht, hmem⟩ := hpart
      exact h t ht hmem
  · exact absurd hmem (by decide)

/-- Elements of a tuple, given what the rewriter makes of shorter texts. -/
theorem exists_stableElement {argument : Text} (h : Element argument)
    (ih : ∀ value, value.length ≤ argument.length → Valid value → ∃ t, Rewritten value t) :
    ∃ t, transportElement argument = .ok t ∧ StableElement t ∧
      (PyChar.scalar '\n' ∉ argument → PyChar.scalar '\n' ∉ t) := by
  cases h with
  | type hvalid =>
    obtain ⟨t, ht⟩ := ih argument (Nat.le_refl _) hvalid
    exact ⟨t, transportElement_type ht.transported, .type ht.stable ht.trimmed, ht.line⟩
  | @field name type hrefused hfield hvalid =>
    obtain ⟨t, ht⟩ := ih type (tupleField_length hfield) hvalid
    obtain ⟨hnameChars, -, htypeLine⟩ := tupleField_chars hfield
    have hline := ht.line htypeLine
    refine ⟨name ++ str " " ++ t, transportElement_field hrefused hfield ht.transported,
      .field (tupleField_eq_some hfield).1 hline ht.stable ht.trimmed, ?_⟩
    intro hargument hmem
    rw [List.mem_append, List.mem_append] at hmem
    rcases hmem with (hmem | hmem) | hmem
    · exact hargument (hnameChars _ hmem)
    · exact absurd hmem (by decide)
    · exact hline hmem

theorem line_of_isTypeName (h : isTypeName name = true) : PyChar.scalar '\n' ∉ name := by
  intro hmem
  have := isNameChar_of_isTypeName h _ hmem
  cases this

theorem rewritten_simple (hparse : parseClickHouseType value = .ok ⟨name, []⟩)
    (hsimple : name ∈ simpleTypes) (hplain : name ∉ unsupportedSimple) :
    Rewritten value (simpleTransport name) := by
  obtain ⟨hstable, htrimmed⟩ := stable_simple hsimple hplain
  obtain ⟨-, -, -, htype, -⟩ := simpleTransport_names name hsimple hplain
  exact ⟨transport_simple hparse hsimple hplain, hstable, htrimmed, fun _ => line_of_isTypeName htype⟩

theorem rewritten_nested {arguments : List Text} (hvalid : Valid value)
    (hparse : parseClickHouseType value = .ok ⟨name, arguments⟩)
    (hname : name ∈ wrapperTypes ∨ name = str "Map") (hne : arguments ≠ [])
    (hsupported : ∀ ts, ts.length = arguments.length → (∀ t ∈ ts, Valid t) → Supported ⟨name, ts⟩)
    (ih : ∀ argument ∈ arguments, ∃ t, Rewritten argument t) :
    ∃ t, Rewritten value t := by
  obtain ⟨ts, hts, hlength, hall⟩ := exists_mapM_forall fun argument hargument =>
    (ih argument hargument).imp fun t ht => ⟨ht.transported, ht⟩
  have hstable : ∀ t ∈ ts, Stable t ∧ Trimmed t := by
    intro t ht
    obtain ⟨argument, -, hrewritten⟩ := hall t ht
    exact ⟨hrewritten.stable, hrewritten.trimmed⟩
  have hne' : ts ≠ [] := by
    rw [← List.length_pos_iff, hlength, List.length_pos_iff]
    exact hne
  have hnested := stable_nested hname hne' (hsupported ts hlength fun t ht => (hstable t ht).1.accepted)
    hstable
  have hwritten := parseClickHouseType_eq_ok.mp hparse
  have htrimmed := (written_printed hwritten.isTypeName_name hne' fun t ht =>
    (hstable t ht).1.argument (hstable t ht).2).trimmed
  refine ⟨_, transport_nested hvalid hparse hname hts, hnested, htrimmed, ?_⟩
  intro hline
  apply line_printed (line_of_isTypeName hwritten.isTypeName_name)
  intro t ht
  obtain ⟨argument, hargument, hrewritten⟩ := hall t ht
  apply hrewritten.line
  intro hmem
  exact hline (mem_of_mem_strip ((hwritten.arguments argument hargument).2 _ hmem))

theorem rewritten_tuple {arguments : List Text} (hvalid : Valid value)
    (hparse : parseClickHouseType value = .ok ⟨str "Tuple", arguments⟩) (hne : arguments ≠ [])
    (ih : ∀ argument ∈ arguments, ∃ t, transportElement argument = .ok t ∧ StableElement t ∧
      (PyChar.scalar '\n' ∉ argument → PyChar.scalar '\n' ∉ t)) :
    ∃ t, Rewritten value t := by
  obtain ⟨ts, hts, hlength, hall⟩ := exists_mapM_forall ih
  have hstable : ∀ t ∈ ts, StableElement t := by
    intro t ht
    obtain ⟨argument, -, helement, -⟩ := hall t ht
    exact helement
  have hne' : ts ≠ [] := by
    rw [← List.length_pos_iff, hlength, List.length_pos_iff]
    exact hne
  have hwritten := parseClickHouseType_eq_ok.mp hparse
  have htrimmed := (written_printed hwritten.isTypeName_name hne' fun t ht =>
    (hstable t ht).argument).trimmed
  refine ⟨_, transport_tuple hvalid hparse hts, stable_tuple hne' hstable, htrimmed, ?_⟩
  intro hline
  apply line_printed (line_of_isTypeName hwritten.isTypeName_name)
  intro t ht
  obtain ⟨argument, hargument, -, htline⟩ := hall t ht
  apply htline
  intro hmem
  exact hline (mem_of_mem_strip ((hwritten.arguments argument hargument).2 _ hmem))

theorem rewritten_dateTime {zone : Option Text}
    (hparse : parseClickHouseType value = .ok ⟨str "DateTime", zone.toList⟩)
    (hzone : ∀ timezone ∈ zone, isTimeZone timezone = true) :
    Rewritten value (dateTimeTransport zone) := by
  have hinteger : isInteger (str "0") = true := by decide
  have harguments : ∀ argument ∈ str "0" :: zone.toList, Argument argument := by
    intro argument hargument
    rcases List.mem_cons.mp hargument with rfl | hargument
    · exact argument_integer hinteger
    · exact argument_timeZone (hzone argument (Option.mem_toList.mp hargument))
  have hprinted : str "DateTime64" ++ str "(" ++
      Text.join (str ", ") (str "0" :: zone.toList) ++ str ")" = dateTimeTransport zone := by
    cases zone with
    | none => rfl
    | some timezone =>
      show str "DateTime64" ++ str "(" ++ Text.join (str ", ") [str "0", timezone] ++ str ")" = _
      rw [Text.join_cons_cons, Text.join_singleton, dateTimeTransport]
      rfl
  have hwritten := written_printed (show isTypeName (str "DateTime64") = true by decide)
    (List.cons_ne_nil _ _) harguments
  rw [hprinted] at hwritten
  have hverbatim : Verbatim ⟨str "DateTime64", str "0" :: zone.toList⟩ :=
    .dateTime64 hinteger (show intOfDigits (str "0") = .ok 0 by decide) (Nat.zero_le _) hzone
  refine ⟨transport_dateTime hparse hzone, stable_verbatim hwritten hverbatim, hwritten.trimmed, ?_⟩
  intro hline
  rw [← hprinted]
  apply line_printed (by decide)
  intro argument hargument
  rcases List.mem_cons.mp hargument with rfl | hargument
  · decide
  · intro hmem
    have hchars := ((parseClickHouseType_eq_ok.mp hparse).arguments argument hargument).2
    exact hline (mem_of_mem_strip (hchars _ hmem))

/-- Every accepted type has a transport type, and that is stable. -/
theorem exists_rewritten (h : Valid value) : ∃ t, Rewritten value t := by
  induction hlength : value.length using Nat.strong_induction_on generalizing value with
  | _ n ih =>
    obtain ⟨parsed, hparse, hsupported⟩ := valid_iff.mp h
    have hshort := parseClickHouseType_length hparse
    cases hsupported with
    | simple hsimple hplain => exact ⟨_, rewritten_simple hparse hsimple hplain⟩
    | @wrapper name argument hname hvalid =>
      refine rewritten_nested h hparse (Or.inl hname) (List.cons_ne_nil _ _) ?_ ?_
      · intro ts hts hall
        obtain ⟨t, rfl⟩ := List.length_eq_one_iff.mp hts
        exact .wrapper hname (hall t List.mem_cons_self)
      · intro other hother
        rw [List.mem_singleton.mp hother]
        have := hshort argument List.mem_cons_self
        exact ih _ (by omega) hvalid rfl
    | @map key value' hkey hvalue =>
      refine rewritten_nested h hparse (Or.inr rfl) (List.cons_ne_nil _ _) ?_ ?_
      · intro ts hts hall
        obtain ⟨k, v, rfl⟩ := List.length_eq_two.mp hts
        exact .map (hall k (by simp)) (hall v (by simp))
      · intro other hother
        have hless := hshort other hother
        have hvalid : Valid other := by
          rcases List.mem_cons.mp hother with rfl | hother
          · exact hkey
          · rw [List.mem_singleton.mp hother]
            exact hvalue
        exact ih _ (by omega) hvalid rfl
    | tuple hne helements =>
      refine rewritten_tuple h hparse hne fun argument hargument => ?_
      have hless := hshort argument hargument
      refine exists_stableElement (helements argument hargument) fun shorter hle hvalid => ?_
      exact ih _ (by omega) hvalid rfl
    | verbatim hverbatim =>
      have hwritten := parseClickHouseType_eq_ok.mp hparse
      exact ⟨_, transport_verbatim hparse hverbatim, stable_verbatim hwritten hverbatim,
        hwritten.trimmed, fun hline hmem => hline (mem_of_mem_strip hmem)⟩
    | dateTime hzone => exact ⟨_, rewritten_dateTime hparse hzone⟩
    | enum hname hne =>
      obtain ⟨hstable, htrimmed⟩ := stable_simple
        (show str "String" ∈ simpleTypes by decide) (show str "String" ∉ unsupportedSimple by decide)
      have hstring : simpleTransport (str "String") = str "String" := by decide
      rw [hstring] at hstable htrimmed
      exact ⟨_, transport_enum hparse hname hne, hstable, htrimmed, fun _ => by decide⟩

theorem valid_of_transport {t : Text} (h : transportTypeExpression value = .ok t) :
    Valid value := by
  rw [transportTypeExpression] at h
  obtain ⟨u, hvalid, -⟩ := bind_eq_ok.mp h
  exact hvalid

/-- The transport type of an accepted type is accepted, its own transport type, free of
the constructors that are rewritten, and closed; the cast of a discovered column is thus
never refused. -/
theorem transport_stable :
    (∀ value, validateTypeExpression value = .ok () →
      ∃ t, transportTypeExpression value = .ok t ∧ Stable t) ∧
    ∀ describeRows columns, parseDescribeColumns describeRows = .ok columns →
      ∀ column ∈ columns, column.castType.forM validateTypeExpression = .ok () := by
  constructor
  · intro value h
    obtain ⟨t, ht⟩ := exists_rewritten h
    exact ⟨t, ht.transported, ht.stable⟩
  · intro describeRows columns h column hcolumn
    obtain ⟨parsed, hparsed, h⟩ := bind_eq_ok.mp h
    have hmem : column ∈ parsed := by
      split at h
      · cases h
      · split at h
        · cases h
        · rwa [← Except.ok.inj h] at hcolumn
    obtain ⟨row, -, hrow⟩ := exists_of_mem_right (mapM_eq_ok.mp hparsed) column hmem
    have htransport : transportTypeExpression column.declaredType = .ok column.transportType := by
      unfold describeColumn at hrow
      split at hrow
      · split at hrow
        · cases hrow
        · obtain ⟨t, ht, hrow⟩ := bind_eq_ok.mp hrow
          rw [← Except.ok.inj hrow]
          exact ht
      · cases hrow
    obtain ⟨t, ht⟩ := exists_rewritten (valid_of_transport htransport)
    obtain rfl := Except.ok.inj (ht.transported.symm.trans htransport)
    rw [ClickHouseColumn.castType]
    split
    · exact ht.stable.accepted
    · rfl

theorem transport_stable_nullableDate :
    ∃ t, transportTypeExpression (str "Nullable( Date)") = .ok t ∧ Stable t := by
  apply transport_stable.1
  have hdate : Valid (str "Date") :=
    valid_iff.mpr ⟨⟨str "Date", []⟩, by decide, .simple (by decide) (by decide)⟩
  exact valid_iff.mpr ⟨⟨str "Nullable", [str "Date"]⟩, by decide, .wrapper (by decide) hdate⟩

end ClickHouse
end DaftOlap
