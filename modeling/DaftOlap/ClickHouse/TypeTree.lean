/-
Trees of the supported types, and how they are printed.

On printed trees the rewriter is the homomorphism that replaces leaves.  Where a size
has too many digits for Python to read, the validator raises before it can answer.
-/
import DaftOlap.ClickHouse.Transport

namespace DaftOlap
namespace ClickHouse

open Python Logic

/-! ## Trees -/

abbrev Scalar := {name : Text // name ∈ simpleTypes ∧ name ∉ unsupportedSimple}

structure Zone where
  name : Text
  ne_nil : name ≠ []
  chars : ∀ c ∈ name, isTimeZoneChar c = true

/-- A label of an enumeration, escaped and without its quotation marks. -/
structure Label where
  text : Text
  quotation : delimiters.Quotation (PyChar.scalar '\'') text
  line : PyChar.scalar '\n' ∉ text

/-- The name of an element of a tuple, as it is written. -/
structure ElementName where
  text : Text
  valid : FieldName text
  line : PyChar.scalar '\n' ∉ text

mutual

inductive TypeTree
  | scalar (name : Scalar)
  | fixedString (size : Nat) (positive : 1 ≤ size)
  | decimalScale (name : Text) (limit scale : Nat)
      (valid : (name, limit) ∈ decimalScaleLimits ∧ scale ≤ limit)
  | decimal (precision scale : Nat)
      (valid : 1 ≤ precision ∧ precision ≤ maxDecimalPrecision ∧ scale ≤ precision)
  | dateTime (zone : Option Zone)
  | dateTime64 (precision : Nat) (zone : Option Zone) (valid : precision ≤ maxDateTime64Precision)
  | enum (name : Text) (valid : name = str "Enum8" ∨ name = str "Enum16") (first : Label × Int)
      (rest : List (Label × Int))
  | wrapper (name : Text) (valid : name ∈ wrapperTypes) (type : TypeTree)
  | map (key value : TypeTree)
  | tuple (elements : Elements)

/-- At least one element. -/
inductive Elements
  | last (name : Option ElementName) (type : TypeTree)
  | cons (name : Option ElementName) (type : TypeTree) (rest : Elements)

end

/-! ## Printing -/

def printApplied (name : Text) (arguments : List Text) : Text :=
  name ++ str "(" ++ Text.join (str ", ") arguments ++ str ")"

def Zone.print (zone : Zone) : Text :=
  PyChar.scalar '\'' :: (zone.name ++ [PyChar.scalar '\''])

def printEntry (entry : Label × Int) : Text :=
  PyChar.scalar '\'' :: (entry.1.text ++ [PyChar.scalar '\'']) ++ str " = " ++ intText entry.2

def printElement (name : Option ElementName) (type : Text) : Text :=
  match name with
  | none => type
  | some name => name.text ++ str " " ++ type

mutual

def TypeTree.print : TypeTree → Text
  | .scalar name => name.val
  | .fixedString size _ => printApplied (str "FixedString") [natText size]
  | .decimalScale name _ scale _ => printApplied name [natText scale]
  | .decimal precision scale _ =>
    printApplied (str "Decimal") [natText precision, natText scale]
  | .dateTime none => str "DateTime"
  | .dateTime (some zone) => printApplied (str "DateTime") [zone.print]
  | .dateTime64 precision zone _ =>
    printApplied (str "DateTime64") (natText precision :: (zone.map Zone.print).toList)
  | .enum name _ first rest => printApplied name ((first :: rest).map printEntry)
  | .wrapper name _ type => printApplied name [type.print]
  | .map key value => printApplied (str "Map") [key.print, value.print]
  | .tuple elements => printApplied (str "Tuple") elements.print

def Elements.print : Elements → List Text
  | .last name type => [printElement name type.print]
  | .cons name type rest => printElement name type.print :: rest.print

end

/-! ## Rewriting -/

def Scalar.transport (name : Text) : Text :=
  if name = str "Date" then str "Date32"
  else if name ∈ ["UUID", "IPv4", "IPv6"].map str then str "String"
  else name

theorem Scalar.transport_names : ∀ name ∈ simpleTypes, name ∉ unsupportedSimple →
    (Scalar.transport name ∈ simpleTypes ∧ Scalar.transport name ∉ unsupportedSimple) ∧
      simpleTransport name = Scalar.transport name := by
  decide +kernel

mutual

/-- The tree of the transport type. -/
def TypeTree.transport : TypeTree → TypeTree
  | .scalar name =>
    .scalar ⟨Scalar.transport name.val,
      (Scalar.transport_names name.val name.property.1 name.property.2).1⟩
  | .fixedString size positive => .fixedString size positive
  | .decimalScale name limit scale valid => .decimalScale name limit scale valid
  | .decimal precision scale valid => .decimal precision scale valid
  | .dateTime zone => .dateTime64 0 zone (Nat.zero_le _)
  | .dateTime64 precision zone valid => .dateTime64 precision zone valid
  | .enum _ _ _ _ => .scalar ⟨str "String", by decide⟩
  | .wrapper name valid type => .wrapper name valid type.transport
  | .map key value => .map key.transport value.transport
  | .tuple elements => .tuple elements.transport

def Elements.transport : Elements → Elements
  | .last name type => .last name type.transport
  | .cons name type rest => .cons name type.transport rest.transport

end

mutual

/-- Python reads the size of every `FixedString` of the tree. -/
def TypeTree.Sized : TypeTree → Prop
  | .fixedString size _ => size < 10 ^ maxStrDigits
  | .wrapper _ _ type => type.Sized
  | .map key value => key.Sized ∧ value.Sized
  | .tuple elements => elements.Sized
  | _ => True

def Elements.Sized : Elements → Prop
  | .last _ type => type.Sized
  | .cons _ type rest => type.Sized ∧ rest.Sized

end

/-! ## Leaves -/

theorem isInteger_natText (n : Nat) : isInteger (natText n) = true := by
  simp only [isInteger, Bool.and_eq_true, decide_eq_true_eq, List.all_eq_true]
  exact ⟨natText_ne_nil n, fun c hc => isAsciiDigit_of_mem_natText hc⟩

theorem length_natText_le {n : Nat} : (natText n).length ≤ maxStrDigits ↔ n < 10 ^ maxStrDigits := by
  rw [natText, List.length_map]
  exact Nat.length_toDigits_le_iff (by decide) (by decide)

/-- Python reads a printed number of at most 4300 digits. -/
theorem intOfDigits_natText {n : Nat} (h : n < 10 ^ maxStrDigits) :
    intOfDigits (natText n) = .ok n := by
  rw [intOfDigits, if_pos (length_natText_le.mpr h), natText, List.foldl_map]
  exact congrArg Except.ok Nat.ofDigitChars_ten_toDigits

theorem intOfDigits_small {n : Nat} (h : n ≤ maxDecimalPrecision) :
    intOfDigits (natText n) = .ok n := by
  apply intOfDigits_natText
  have hbound : maxDecimalPrecision < 10 ^ 2 := by decide
  have hpow : 10 ^ 2 ≤ 10 ^ maxStrDigits := Nat.pow_le_pow_right (by decide) (by decide)
  omega

theorem line_natText (n : Nat) : PyChar.scalar '\n' ∉ natText n := by
  intro hmem
  have hdigit := isAsciiDigit_of_mem_natText hmem
  cases hdigit

theorem Zone.isTimeZone_print (zone : Zone) : isTimeZone zone.print = true :=
  isTimeZone_quoted zone.ne_nil zone.chars

theorem Zone.line_print (zone : Zone) : PyChar.scalar '\n' ∉ zone.print := by
  intro hmem
  rw [Zone.print, List.mem_cons, List.mem_append] at hmem
  rcases hmem with hquote | hname | hquote
  · exact absurd hquote (by decide)
  · have hchar := zone.chars _ hname
    cases hchar
  · exact absurd hquote (by decide)

theorem isTimeZone_zones (zone : Option Zone) :
    ∀ timezone ∈ zone.map Zone.print, isTimeZone timezone = true := by
  intro timezone hzone
  obtain ⟨z, -, rfl⟩ := Option.mem_map.mp hzone
  exact z.isTimeZone_print

theorem mem_intText {z : Int} {c : PyChar} (h : c ∈ intText z) :
    c = '-' ∨ c.isAsciiDigit = true := by
  unfold intText at h
  split at h
  · rcases List.mem_cons.mp h with hsign | hdigit
    · exact Or.inl hsign
    · exact Or.inr (isAsciiDigit_of_mem_natText hdigit)
  · exact Or.inr (isAsciiDigit_of_mem_natText h)

/-- An entry of an enumeration is one argument on one line. -/
theorem printEntry_argument (entry : Label × Int) :
    Argument (printEntry entry) ∧ PyChar.scalar '\n' ∉ printEntry entry := by
  obtain ⟨label, number⟩ := entry
  have hnumber : ∀ c ∈ intText number,
      delimiters.Plain c ∧ c.isSpace = false ∧ c ≠ PyChar.scalar '\n' := by
    intro c hc
    rcases mem_intText hc with rfl | hdigit
    · exact ⟨plain_of_ne (by decide), rfl, by decide⟩
    · have hname : c.isNameChar = true := by
        rw [PyChar.isNameChar, hdigit]
        simp
      refine ⟨plain_of_isNameChar hname, isSpace_of_isNameChar hname, ?_⟩
      intro hline
      rw [hline] at hdigit
      cases hdigit
  have hequals : ∀ c ∈ str " = ", delimiters.Plain c := by
    intro c hc
    apply plain_of_ne
    have hnot : ∀ c ∈ str " = ", c ∉ str "'\"`()," := by decide
    exact hnot c hc
  refine ⟨⟨?_, ⟨?_, ?_⟩, ?_⟩, ?_⟩
  · apply Delimiters.Closed.append
    · exact (label.quotation.closed (by decide)).append (.of_plain hequals)
    · exact .of_plain fun c hc => (hnumber c hc).1
  · intro c hc
    rw [← Option.some.inj hc]
    rfl
  · intro c hc
    rw [printEntry, List.getLast?_append_of_ne_nil _ (intText_ne_nil number)] at hc
    exact (hnumber c (List.mem_of_getLast? hc)).2.1
  · simp [printEntry]
  · intro hmem
    rw [printEntry, List.mem_append, List.mem_append, List.mem_cons, List.mem_append] at hmem
    rcases hmem with ((hquote | hlabel | hquote) | hequal) | hdigits
    · exact absurd hquote (by decide)
    · exact label.line hlabel
    · exact absurd hquote (by decide)
    · exact absurd hequal (by decide)
    · exact (hnumber _ hdigits).2.2 rfl

/-! ## Printed trees -/

/-- The printed tree is a supported type on one line, and what it is rewritten to. -/
structure Printed (print transported : Text) : Prop where
  supported : ∃ parsed, Written print parsed ∧ Supported parsed
  line : PyChar.scalar '\n' ∉ print
  transport_eq : transportTypeExpression print = .ok transported

theorem Printed.valid {print transported : Text} (h : Printed print transported) : Valid print := by
  obtain ⟨parsed, hwritten, hsupported⟩ := h.supported
  exact valid_of_supported hwritten.parse_eq_ok hsupported

theorem Printed.argument {print transported : Text} (h : Printed print transported) :
    Argument print := by
  obtain ⟨parsed, hwritten, -⟩ := h.supported
  exact hwritten.argument

/-- A printed leaf that is kept as it is. -/
theorem printed_verbatim {name : Text} {arguments : List Text} (hne : arguments ≠ [])
    (hname : isTypeName name = true)
    (harguments : ∀ argument ∈ arguments, Argument argument ∧ PyChar.scalar '\n' ∉ argument)
    (h : Verbatim ⟨name, arguments⟩) :
    Printed (printApplied name arguments) (printApplied name arguments) := by
  have hwritten : Written (printApplied name arguments) ⟨name, arguments⟩ :=
    written_printed hname hne fun argument hargument => (harguments argument hargument).1
  have htransport := transport_verbatim hwritten.parse_eq_ok h
  rw [Text.strip_of_trimmed hwritten.trimmed] at htransport
  exact ⟨⟨_, hwritten, .verbatim h⟩, line_printed (line_of_isTypeName hname) fun argument hargument =>
    (harguments argument hargument).2, htransport⟩

theorem argument_natText (n : Nat) :
    Argument (natText n) ∧ PyChar.scalar '\n' ∉ natText n :=
  ⟨argument_integer (isInteger_natText n), line_natText n⟩

theorem argument_zones (zone : Option Zone) : ∀ argument ∈ (zone.map Zone.print).toList,
    Argument argument ∧ PyChar.scalar '\n' ∉ argument := by
  intro argument hargument
  obtain ⟨z, -, rfl⟩ := Option.mem_map.mp (Option.mem_toList.mp hargument)
  exact ⟨argument_timeZone z.isTimeZone_print, z.line_print⟩

theorem printed_dateTime64 {precision : Nat} (zone : Option Zone)
    (h : precision ≤ maxDateTime64Precision) :
    Printed (printApplied (str "DateTime64") (natText precision :: (zone.map Zone.print).toList))
      (printApplied (str "DateTime64") (natText precision :: (zone.map Zone.print).toList)) := by
  have hbound : maxDateTime64Precision ≤ maxDecimalPrecision := by decide
  apply printed_verbatim (List.cons_ne_nil _ _) (by decide)
  · intro argument hargument
    rcases List.mem_cons.mp hargument with rfl | hargument
    · exact argument_natText precision
    · exact argument_zones zone argument hargument
  · exact .dateTime64 (isInteger_natText precision) (intOfDigits_small (by omega)) h
      (isTimeZone_zones zone)

theorem printed_dateTime (zone : Option Zone) :
    Printed (TypeTree.print (.dateTime zone))
      (printApplied (str "DateTime64") (natText 0 :: (zone.map Zone.print).toList)) := by
  have hname : isTypeName (str "DateTime") = true := by decide
  cases zone with
  | none =>
    have hwritten : Written (str "DateTime") ⟨str "DateTime", (none : Option Text).toList⟩ :=
      .bare hname
    have hnone : ∀ timezone ∈ (none : Option Text), isTimeZone timezone = true :=
      fun timezone hzone => by cases hzone
    exact ⟨⟨_, hwritten, .dateTime hnone⟩, line_of_isTypeName hname,
      transport_dateTime hwritten.parse_eq_ok hnone⟩
  | some zone =>
    have hzone := isTimeZone_zones (some zone)
    have hwritten : Written (printApplied (str "DateTime") [zone.print])
        ⟨str "DateTime", ((some zone).map Zone.print).toList⟩ :=
      written_printed hname (List.cons_ne_nil _ _) fun argument hargument =>
        (argument_zones (some zone) argument hargument).1
    refine ⟨⟨_, hwritten, .dateTime hzone⟩, ?_, ?_⟩
    · exact line_printed (line_of_isTypeName hname) fun argument hargument =>
        (argument_zones (some zone) argument hargument).2
    · rw [TypeTree.print, transport_dateTime hwritten.parse_eq_ok hzone]
      show Except.ok (str "DateTime64(0, " ++ zone.print ++ str ")") =
        Except.ok (printApplied (str "DateTime64") [natText 0, zone.print])
      rw [printApplied, Text.join_cons_cons, Text.join_singleton]
      rfl

theorem printed_scalar (name : Scalar) : Printed name.val (Scalar.transport name.val) := by
  obtain ⟨name, hsimple, hplain⟩ := name
  have htypes : ∀ name ∈ simpleTypes, isTypeName name = true := by decide
  have hwritten := Written.bare (htypes name hsimple)
  have htransport := transport_simple hwritten.parse_eq_ok hsimple hplain
  rw [(Scalar.transport_names name hsimple hplain).2] at htransport
  exact ⟨⟨_, hwritten, .simple hsimple hplain⟩, line_of_isTypeName (htypes name hsimple), htransport⟩

theorem printed_enum {name : Text} (hname : name = str "Enum8" ∨ name = str "Enum16")
    (first : Label × Int) (rest : List (Label × Int)) :
    Printed (printApplied name ((first :: rest).map printEntry)) (str "String") := by
  have htype : isTypeName name = true := by
    rcases hname with rfl | rfl
    · decide
    · decide
  have hentries : ∀ argument ∈ (first :: rest).map printEntry,
      Argument argument ∧ PyChar.scalar '\n' ∉ argument := by
    intro argument hargument
    obtain ⟨entry, -, rfl⟩ := List.mem_map.mp hargument
    exact printEntry_argument entry
  have hwritten : Written (printApplied name ((first :: rest).map printEntry))
      ⟨name, (first :: rest).map printEntry⟩ :=
    written_printed htype (List.cons_ne_nil _ _) fun argument hargument =>
      (hentries argument hargument).1
  exact ⟨⟨_, hwritten, .enum hname (List.cons_ne_nil _ _)⟩,
    line_printed (line_of_isTypeName htype) fun argument hargument => (hentries argument hargument).2,
    transport_enum hwritten.parse_eq_ok hname (List.cons_ne_nil _ _)⟩

theorem printed_nested {name : Text} {arguments ts : List Text}
    (hname : name ∈ wrapperTypes ∨ name = str "Map") (hne : arguments ≠ [])
    (hsupported : Supported ⟨name, arguments⟩) (h : List.Forall₂ Printed arguments ts) :
    Printed (printApplied name arguments) (printApplied name ts) := by
  have htype : isTypeName name = true := by
    rcases hname with hwrapper | rfl
    · exact (wrapperTypes_names name hwrapper).2
    · decide
  have hall := exists_of_mem_left h
  have hwritten : Written (printApplied name arguments) ⟨name, arguments⟩ := by
    apply written_printed htype hne
    intro argument hargument
    obtain ⟨t, ht⟩ := hall argument hargument
    exact ht.argument
  have hvalid := valid_of_supported hwritten.parse_eq_ok hsupported
  refine ⟨⟨_, hwritten, hsupported⟩, ?_, ?_⟩
  · apply line_printed (line_of_isTypeName htype)
    intro argument hargument
    obtain ⟨t, ht⟩ := hall argument hargument
    exact ht.line
  · apply transport_nested hvalid hwritten.parse_eq_ok hname
    rw [mapM_eq_ok]
    exact h.imp fun _ _ hprinted => hprinted.transport_eq

/-- The printed element of a tuple, and what it is rewritten to. -/
structure PrintedElement (print transported : Text) : Prop where
  argument : Argument print
  accepted : Element print
  line : PyChar.scalar '\n' ∉ print
  transport_eq : transportElement print = .ok transported

theorem printed_element {type transported : Text} (name : Option ElementName)
    (h : Printed type transported) :
    PrintedElement (printElement name type) (printElement name transported) := by
  cases name with
  | none => exact ⟨h.argument, .type h.valid, h.line, transportElement_type h.transport_eq⟩
  | some name =>
    obtain ⟨parsed, hwritten, -⟩ := h.supported
    obtain ⟨-, hrefused, hread⟩ := read_field name.valid h.line hwritten
    refine ⟨argument_field name.valid h.argument, .field hrefused hread h.valid, ?_,
      transportElement_field hrefused hread h.transport_eq⟩
    intro hmem
    rw [printElement, List.mem_append, List.mem_append] at hmem
    rcases hmem with (hname | hspace) | htype
    · exact name.line hname
    · exact absurd hspace (by decide)
    · exact h.line htype

theorem printed_tuple {elements ts : List Text} (hne : elements ≠ [])
    (h : List.Forall₂ PrintedElement elements ts) :
    Printed (printApplied (str "Tuple") elements) (printApplied (str "Tuple") ts) := by
  have hall := exists_of_mem_left h
  have hwritten : Written (printApplied (str "Tuple") elements) ⟨str "Tuple", elements⟩ := by
    apply written_printed (by decide) hne
    intro element helement
    obtain ⟨t, ht⟩ := hall element helement
    exact ht.argument
  have hsupported : Supported ⟨str "Tuple", elements⟩ := by
    refine .tuple hne fun element helement => ?_
    obtain ⟨t, ht⟩ := hall element helement
    exact ht.accepted
  have hvalid := valid_of_supported hwritten.parse_eq_ok hsupported
  refine ⟨⟨_, hwritten, hsupported⟩, ?_, ?_⟩
  · apply line_printed (by decide)
    intro element helement
    obtain ⟨t, ht⟩ := hall element helement
    exact ht.line
  · apply transport_tuple hvalid hwritten.parse_eq_ok
    rw [mapM_eq_ok]
    exact h.imp fun _ _ hprinted => hprinted.transport_eq

theorem Elements.print_ne_nil (elements : Elements) : elements.print ≠ [] := by
  cases elements with
  | last name type =>
    rw [Elements.print]
    exact List.cons_ne_nil _ _
  | cons name type rest =>
    rw [Elements.print]
    exact List.cons_ne_nil _ _

mutual

/-- By induction on the tree. -/
theorem TypeTree.printed : ∀ tree : TypeTree, tree.Sized → Printed tree.print tree.transport.print
  | .scalar name, _ => by
    rw [TypeTree.transport, TypeTree.print, TypeTree.print]
    exact printed_scalar name
  | .fixedString size positive, hsized => by
    rw [TypeTree.transport, TypeTree.print]
    rw [TypeTree.Sized] at hsized
    apply printed_verbatim (List.cons_ne_nil _ _) (by decide)
    · intro argument hargument
      rw [List.mem_singleton.mp hargument]
      exact argument_natText size
    · exact .fixedString (isInteger_natText size) (intOfDigits_natText hsized) positive
  | .decimalScale name limit scale valid, _ => by
    have hlimits : ∀ p ∈ decimalScaleLimits, isTypeName p.1 = true ∧ p.2 ≤ maxDecimalPrecision := by
      decide
    have hlimit := hlimits _ valid.1
    rw [TypeTree.transport, TypeTree.print]
    apply printed_verbatim (List.cons_ne_nil _ _) hlimit.1
    · intro argument hargument
      rw [List.mem_singleton.mp hargument]
      exact argument_natText scale
    · exact .decimalScale valid.1 (isInteger_natText scale)
        (intOfDigits_small (Nat.le_trans valid.2 hlimit.2)) valid.2
  | .decimal precision scale valid, _ => by
    obtain ⟨hpos, hmax, hscale⟩ := valid
    rw [TypeTree.transport, TypeTree.print]
    apply printed_verbatim (List.cons_ne_nil _ _) (by decide)
    · intro argument hargument
      rcases List.mem_cons.mp hargument with rfl | hargument
      · exact argument_natText precision
      · rw [List.mem_singleton.mp hargument]
        exact argument_natText scale
    · exact .decimal (isInteger_natText precision) (isInteger_natText scale)
        (intOfDigits_small hmax) (intOfDigits_small (Nat.le_trans hscale hmax)) hpos hmax hscale
  | .dateTime zone, _ => by
    have hprint : (TypeTree.dateTime64 0 zone (Nat.zero_le _)).print =
        printApplied (str "DateTime64") (natText 0 :: (zone.map Zone.print).toList) := by
      rw [TypeTree.print]
    rw [TypeTree.transport, hprint]
    exact printed_dateTime zone
  | .dateTime64 precision zone valid, _ => by
    rw [TypeTree.transport, TypeTree.print]
    exact printed_dateTime64 zone valid
  | .enum name valid first rest, _ => by
    rw [TypeTree.transport, TypeTree.print, TypeTree.print]
    exact printed_enum valid first rest
  | .wrapper name valid type, hsized => by
    rw [TypeTree.Sized] at hsized
    have htype := TypeTree.printed type hsized
    rw [TypeTree.transport, TypeTree.print, TypeTree.print]
    exact printed_nested (Or.inl valid) (List.cons_ne_nil _ _) (.wrapper valid htype.valid)
      (.cons htype .nil)
  | .map key value, hsized => by
    rw [TypeTree.Sized] at hsized
    have hkey := TypeTree.printed key hsized.1
    have hvalue := TypeTree.printed value hsized.2
    rw [TypeTree.transport, TypeTree.print, TypeTree.print]
    exact printed_nested (Or.inr rfl) (List.cons_ne_nil _ _) (.map hkey.valid hvalue.valid)
      (.cons hkey (.cons hvalue .nil))
  | .tuple elements, hsized => by
    rw [TypeTree.Sized] at hsized
    rw [TypeTree.transport, TypeTree.print, TypeTree.print]
    exact printed_tuple elements.print_ne_nil (Elements.printed elements hsized)

theorem Elements.printed : ∀ elements : Elements, elements.Sized →
    List.Forall₂ PrintedElement elements.print elements.transport.print
  | .last name type, hsized => by
    rw [Elements.Sized] at hsized
    rw [Elements.transport, Elements.print, Elements.print]
    exact .cons (printed_element name (TypeTree.printed type hsized)) .nil
  | .cons name type rest, hsized => by
    rw [Elements.Sized] at hsized
    rw [Elements.transport, Elements.print, Elements.print]
    exact .cons (printed_element name (TypeTree.printed type hsized.1))
      (Elements.printed rest hsized.2)

end

/-- On printed trees the rewriter replaces leaves and keeps everything else. -/
theorem transport_print (tree : TypeTree) (h : tree.Sized) :
    validateTypeExpression tree.print = .ok () ∧
      transportTypeExpression tree.print = .ok tree.transport.print :=
  ⟨(tree.printed h).valid, (tree.printed h).transport_eq⟩

/-- A date named by a quoted comma and bracket, and a moment. -/
def exampleTree : TypeTree :=
  .tuple (.cons (some ⟨str "`,(`", .quoted (.char (by decide) (by decide) (.char (by decide)
      (by decide) .nil)) (by decide), by decide⟩)
    (.scalar ⟨str "Date", by decide⟩) (.last none (.dateTime none)))

theorem transport_print_quotedName :
    transportTypeExpression (str "Tuple(`,(` Date, DateTime)") =
      .ok (str "Tuple(`,(` Date32, DateTime64(0))") :=
  (transport_print exampleTree ⟨trivial, trivial⟩).2

/-- Python refuses to read a size of more than 4300 digits. -/
theorem validate_fixedString_unsized {size : Nat} (positive : 1 ≤ size)
    (h : ¬ (TypeTree.fixedString size positive).Sized) :
    validateTypeExpression (TypeTree.fixedString size positive).print = .error .valueError := by
  rw [TypeTree.Sized] at h
  have hwritten : Written (printApplied (str "FixedString") [natText size])
      ⟨str "FixedString", [natText size]⟩ := by
    apply written_printed (by decide) (List.cons_ne_nil _ _)
    intro argument hargument
    rw [List.mem_singleton.mp hargument]
    exact (argument_natText size).1
  have hdigits : intOfDigits (natText size) = .error .valueError := by
    rw [intOfDigits, if_neg fun hle => h (length_natText_le.mp hle)]
  rw [TypeTree.print, validate_leaf hwritten.parse_eq_ok (by decide), if_pos (Or.inl rfl),
    validateSingleIntegerType]
  show (if ¬ isInteger (natText size) = true then _ else _) = _
  rw [if_neg (not_not.mpr (isInteger_natText size)), hdigits, error_bind]

theorem not_transport_print_unsized : ¬ ∀ tree : TypeTree,
    validateTypeExpression tree.print = .ok () ∧
      transportTypeExpression tree.print = .ok tree.transport.print := by
  intro h
  have hpositive : 1 ≤ 10 ^ maxStrDigits := Nat.one_le_pow _ _ (by decide)
  have hunsized : ¬ (TypeTree.fixedString (10 ^ maxStrDigits) hpositive).Sized := by
    rw [TypeTree.Sized]
    exact Nat.lt_irrefl _
  have haccepted := (h (.fixedString (10 ^ maxStrDigits) hpositive)).1
  rw [validate_fixedString_unsized hpositive hunsized] at haccepted
  cases haccepted

end ClickHouse
end DaftOlap
