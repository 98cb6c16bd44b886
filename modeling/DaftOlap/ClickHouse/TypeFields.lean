/-
Named elements of tuples.

`tupleField` reads a name, white space and a type.  It reads back what is printed with
one space between them, and what it reads is never a type by itself.
-/
import DaftOlap.ClickHouse.Schema
import DaftOlap.ClickHouse.TypeParse

namespace DaftOlap
namespace ClickHouse

open Python Logic

/-! ## Names -/

/-- What stands between the backticks of a quoted field name. -/
inductive FieldContent : Text → Prop
  | nil : FieldContent []
  | char {c : PyChar} {t : Text} :
      c ≠ '`' → c ≠ '\\' → FieldContent t → FieldContent (c :: t)
  | escaped {c : PyChar} {t : Text} :
      c ≠ '\n' → FieldContent t → FieldContent (PyChar.scalar '\\' :: c :: t)
  | doubled {t : Text} :
      FieldContent t → FieldContent (PyChar.scalar '`' :: PyChar.scalar '`' :: t)

/-- The name group of the pattern `_TUPLE_FIELD`. -/
inductive FieldName : Text → Prop
  | bare {c : PyChar} {t : Text} :
      c.isNameStart = true → (∀ d ∈ t, d.isNameChar = true) → FieldName (c :: t)
  | quoted {content : Text} : FieldContent content → content ≠ [] →
      FieldName (PyChar.scalar '`' :: (content ++ [PyChar.scalar '`']))

theorem FieldContent.quotation {t : Text} (h : FieldContent t) :
    delimiters.Quotation (PyChar.scalar '`') t := by
  induction h with
  | nil => exact .nil
  | char hquote hescape _ ih => exact .plain hquote hescape ih
  | escaped _ _ ih => exact .escaped ih
  | doubled _ ih => exact .doubled ih

theorem FieldName.closed {name : Text} (h : FieldName name) : Closed name := by
  cases h with
  | bare hstart hrest =>
    apply Delimiters.Closed.of_plain
    intro d hd
    rcases List.mem_cons.mp hd with rfl | hd
    · exact plain_of_isNameChar (PyChar.isNameChar_of_isNameStart hstart)
    · exact plain_of_isNameChar (hrest d hd)
  | quoted hcontent _ => exact hcontent.quotation.closed (by decide)

/-- A field name does not begin with white space. -/
theorem FieldName.head {name : Text} (h : FieldName name) :
    ∃ c t, name = c :: t ∧ c.isSpace = false := by
  cases h with
  | @bare c t hstart _ =>
    exact ⟨c, t, rfl, isSpace_of_isNameChar (PyChar.isNameChar_of_isNameStart hstart)⟩
  | quoted _ _ => exact ⟨_, _, rfl, rfl⟩

theorem quotedFieldName?_cons {c : PyChar} {t : Text} (hquote : c ≠ '`') (hescape : c ≠ '\\')
    (hne : t ≠ []) :
    quotedFieldName? (c :: t) = (quotedFieldName? t).map fun r => (c :: r.1, r.2) := by
  cases t with
  | nil => exact absurd rfl hne
  | cons d t => rw [quotedFieldName?, if_neg hquote, if_neg hescape]

theorem quotedFieldName?_content {content after : Text} (h : FieldContent content)
    (hafter : after.head? ≠ some (PyChar.scalar '`')) :
    quotedFieldName? (content ++ PyChar.scalar '`' :: after) =
      some (content ++ [PyChar.scalar '`'], after) := by
  induction h with
  | nil =>
    cases after with
    | nil => rfl
    | cons d after =>
      have hd : d ≠ '`' := fun hd => hafter (by rw [hd]; rfl)
      rw [List.nil_append, quotedFieldName?, if_pos rfl, if_neg hd]
      rfl
  | char hquote hescape _ ih =>
    rw [List.cons_append, quotedFieldName?_cons hquote hescape (by simp), ih]
    rfl
  | escaped hline _ ih =>
    rw [List.cons_append, List.cons_append, quotedFieldName?, if_neg (by decide), if_pos rfl,
      if_neg hline, ih]
    rfl
  | doubled _ ih =>
    rw [List.cons_append, List.cons_append, quotedFieldName?, if_pos rfl, if_pos rfl, ih]
    rfl

theorem content_of_quotedFieldName? {t name after : Text}
    (h : quotedFieldName? t = some (name, after)) :
    ∃ content, FieldContent content ∧ name = content ++ [PyChar.scalar '`'] ∧
      t = name ++ after := by
  fun_induction quotedFieldName? t generalizing name after with
  | case1 | case3 | case6 => cases h
  | case2 =>
    obtain ⟨rfl, rfl⟩ := Prod.mk.inj (Option.some.inj h)
    exact ⟨[], .nil, rfl, rfl⟩
  | case4 rest ih =>
    obtain ⟨⟨name', after'⟩, hread, h⟩ := Option.map_eq_some_iff.mp h
    obtain ⟨rfl, rfl⟩ := Prod.mk.inj h
    obtain ⟨content, hcontent, rfl, rfl⟩ := ih hread
    exact ⟨_, .doubled hcontent, rfl, rfl⟩
  | case5 d rest hd =>
    obtain ⟨rfl, rfl⟩ := Prod.mk.inj (Option.some.inj h)
    exact ⟨[], .nil, rfl, rfl⟩
  | case7 d rest hline hquote ih =>
    obtain ⟨⟨name', after'⟩, hread, h⟩ := Option.map_eq_some_iff.mp h
    obtain ⟨rfl, rfl⟩ := Prod.mk.inj h
    obtain ⟨content, hcontent, rfl, rfl⟩ := ih hread
    exact ⟨_, .escaped hline hcontent, rfl, rfl⟩
  | case8 c d rest hquote hescape ih =>
    obtain ⟨⟨name', after'⟩, hread, h⟩ := Option.map_eq_some_iff.mp h
    obtain ⟨rfl, rfl⟩ := Prod.mk.inj h
    obtain ⟨content, hcontent, rfl, happend⟩ := ih hread
    exact ⟨_, .char hquote hescape hcontent, rfl, by rw [happend]; rfl⟩

/-- A field name at the start of a text, and what follows it. -/
theorem fieldName?_eq_some {t name after : Text} (h : fieldName? t = some (name, after)) :
    FieldName name ∧ t = name ++ after := by
  unfold fieldName? at h
  split at h
  · cases h
  · next c rest =>
    split at h
    · next hc =>
      obtain rfl : c = PyChar.scalar '`' := hc
      split at h
      · cases h
      · next quoted after' hread =>
        split at h
        · cases h
        · next hempty =>
          obtain ⟨rfl, rfl⟩ := Prod.mk.inj (Option.some.inj h)
          obtain ⟨content, hcontent, rfl, rfl⟩ := content_of_quotedFieldName? hread
          refine ⟨.quoted hcontent ?_, rfl⟩
          intro hnil
          rw [hnil] at hempty
          exact hempty rfl
    · obtain ⟨bare, hname, h⟩ := Option.map_eq_some_iff.mp h
      obtain ⟨rfl, rfl⟩ := Prod.mk.inj h
      rw [Text.parameterName?] at hname
      split at hname
      · next hstart =>
        have hpre := (List.prefix_cons_inj c).mpr (List.takeWhile_prefix PyChar.isNameChar (l := rest))
        rw [← Option.some.inj hname]
        exact ⟨.bare hstart fun d hd => List.mem_takeWhile_imp hd,
          (List.prefix_iff_eq_append.mp hpre).symm⟩
      · cases hname

theorem fieldName?_append {name after : Text} (h : FieldName name)
    (hafter : ∀ c, after.head? = some c → c.isNameChar = false ∧ c ≠ '`') :
    fieldName? (name ++ after) = some (name, after) := by
  cases h with
  | @bare c t hstart hrest =>
    have htake : (t ++ after).takeWhile PyChar.isNameChar = t := by
      rw [List.takeWhile_append_of_pos hrest]
      cases after with
      | nil => rw [List.takeWhile_nil, List.append_nil]
      | cons d after =>
        rw [List.takeWhile_cons_of_neg (by rw [(hafter d rfl).1]; exact Bool.false_ne_true),
          List.append_nil]
    have hc : c ≠ '`' := by
      intro hc
      rw [hc] at hstart
      cases hstart
    rw [List.cons_append, fieldName?, if_neg hc, Text.parameterName?, if_pos hstart, htake]
    simp
  | @quoted content hcontent hne =>
    have hopen : after.head? ≠ some (PyChar.scalar '`') := fun h => (hafter _ h).2 rfl
    have hread := quotedFieldName?_content hcontent hopen
    have hname : content ++ [PyChar.scalar '`'] ≠ [PyChar.scalar '`'] := by
      intro heq
      exact hne (List.append_cancel_right (show content ++ _ = [] ++ _ from heq))
    rw [List.cons_append, List.append_assoc, List.singleton_append, fieldName?, if_pos rfl, hread]
    simp only
    rw [if_neg hname]

/-! ## Types of fields -/

/-- What `fieldType?` reads is on one line; it is the rest of the text after white space,
unless that is all white space. -/
theorem fieldType?_eq_some {t type : Text} (h : fieldType? t = some type) :
    PyChar.scalar '\n' ∉ type ∧ (∀ c ∈ type, c ∈ t) ∧ (∃ c, t.head? = some c ∧ c.isSpace = true) ∧
      (type = t.dropWhile PyChar.isSpace ∨ Text.strip type = []) := by
  unfold fieldType? at h
  simp only at h
  split at h
  · cases h
  · next hne =>
    have hhead : ∃ c, t.head? = some c ∧ c.isSpace = true := by
      cases t with
      | nil => exact absurd rfl hne
      | cons c t =>
        refine ⟨c, rfl, ?_⟩
        rw [← Bool.not_eq_false]
        intro hc
        rw [List.takeWhile_cons_of_neg (by rw [hc]; exact Bool.false_ne_true)] at hne
        exact hne rfl
    simp only [Option.ite_none_left_eq_some, Option.some.injEq] at h
    obtain ⟨hgroup, htype⟩ := h
    rw [htype, not_or] at hgroup
    refine ⟨hgroup.2, ?_, hhead, ?_⟩
    · intro c hc
      rw [← htype] at hc
      split at hc
      · have hmem := List.mem_of_getLast? (Option.mem_toList.mp hc)
        exact (List.takeWhile_prefix _).subset (List.mem_of_mem_tail hmem)
      · exact (List.dropWhile_suffix _).subset hc
    · split at htype
      · right
        apply Text.strip_white
        intro c hc
        rw [← htype] at hc
        have hmem := List.mem_of_getLast? (Option.mem_toList.mp hc)
        exact List.mem_takeWhile_imp (List.mem_of_mem_tail hmem)
      · exact Or.inl htype.symm

theorem fieldType?_space {c : PyChar} {t : Text} (hc : c.isSpace = false)
    (hline : PyChar.scalar '\n' ∉ c :: t) :
    fieldType? (PyChar.scalar ' ' :: c :: t) = some (c :: t) := by
  have htake : (PyChar.scalar ' ' :: c :: t).takeWhile PyChar.isSpace = [PyChar.scalar ' '] := by
    rw [List.takeWhile_cons_of_pos rfl,
      List.takeWhile_cons_of_neg (by rw [hc]; exact Bool.false_ne_true)]
  have hdrop : (PyChar.scalar ' ' :: c :: t).dropWhile PyChar.isSpace = c :: t := by
    rw [List.dropWhile_cons_of_pos rfl,
      List.dropWhile_cons_of_neg (by rw [hc]; exact Bool.false_ne_true)]
  rw [fieldType?]
  simp only
  rw [htake, hdrop, if_neg (List.cons_ne_nil _ _), if_neg (List.cons_ne_nil _ _), if_neg]
  intro h
  rcases h with hnil | hmem
  · cases hnil
  · exact hline hmem

/-! ## Fields -/

theorem tupleField_eq_some {argument name type : Text}
    (h : tupleField argument = some (name, type)) :
    FieldName name ∧ ∃ after, argument = name ++ after ∧ fieldType? after = some type := by
  unfold tupleField at h
  obtain ⟨⟨name', after⟩, hname, h⟩ := Option.bind_eq_some_iff.mp h
  obtain ⟨type', htype, h⟩ := Option.bind_eq_some_iff.mp h
  obtain ⟨rfl, rfl⟩ := Prod.mk.inj (Option.some.inj h)
  obtain ⟨hfield, happend⟩ := fieldName?_eq_some hname
  exact ⟨hfield, after, happend, htype⟩

/-- A field reads back as it is printed. -/
theorem tupleField_printed {name : Text} (hname : FieldName name) {c : PyChar} {t : Text}
    (hc : c.isSpace = false) (hline : PyChar.scalar '\n' ∉ c :: t) :
    tupleField (name ++ str " " ++ c :: t) = some (name, c :: t) := by
  have hafter : fieldName? (name ++ (PyChar.scalar ' ' :: c :: t)) =
      some (name, PyChar.scalar ' ' :: c :: t) := by
    apply fieldName?_append hname
    intro d hd
    rw [← Option.some.inj hd]
    exact ⟨rfl, by decide⟩
  rw [List.append_assoc]
  show (fieldName? (name ++ (PyChar.scalar ' ' :: c :: t))).bind _ = _
  rw [hafter, Option.bind_some]
  show (fieldType? (PyChar.scalar ' ' :: c :: t)).bind _ = _
  rw [fieldType?_space hc hline]
  rfl

theorem tupleField_chars {argument name type : Text}
    (h : tupleField argument = some (name, type)) :
    (∀ c ∈ name, c ∈ argument) ∧ (∀ c ∈ type, c ∈ argument) ∧ PyChar.scalar '\n' ∉ type := by
  obtain ⟨-, after, rfl, htype⟩ := tupleField_eq_some h
  obtain ⟨hline, hsubset, -, -⟩ := fieldType?_eq_some htype
  exact ⟨fun c hc => List.mem_append_left after hc,
    fun c hc => List.mem_append_right name (hsubset c hc), hline⟩

/-- The first character of a type is a letter. -/
theorem Written.head {text : Text} {parsed : ClickHouseType} (h : Written text parsed) :
    ∃ c t, text = c :: t ∧ c.isAsciiLetter = true := by
  cases h with
  | bare hname =>
    cases text with
    | nil => cases hname
    | cons c t => exact ⟨c, t, rfl, (Bool.and_eq_true _ _).mp hname |>.1⟩
  | @applied name pad pieces hname hpad hpieces =>
    cases name with
    | nil => cases hname
    | cons c t => exact ⟨c, _, rfl, (Bool.and_eq_true _ _).mp hname |>.1⟩

/-- A named field is not a type. -/
theorem not_written_field {name type : Text} (hname : FieldName name) {c : PyChar}
    (hhead : type.head? = some c) (hc : c.isAsciiLetter = true) (parsed : ClickHouseType) :
    ¬ Written (name ++ str " " ++ type) parsed := by
  intro h
  cases hname with
  | @bare d t hstart hrest =>
    have hchars : ∀ e ∈ d :: t, e.isNameChar = true := by
      intro e he
      rcases List.mem_cons.mp he with rfl | he
      · exact PyChar.isNameChar_of_isNameStart hstart
      · exact hrest e he
    have hspace : ((d :: t ++ str " " ++ type).dropWhile PyChar.isNameChar).dropWhile
        PyChar.isSpace = type := by
      rw [List.append_assoc, List.dropWhile_append_of_pos hchars]
      show type.dropWhile PyChar.isSpace = type
      cases type with
      | nil => rfl
      | cons e type =>
        obtain rfl : e = c := Option.some.inj hhead
        have hname : e.isNameChar = true := by
          rw [PyChar.isNameChar, hc]
          rfl
        rw [List.dropWhile_cons_of_neg (by
          rw [isSpace_of_isNameChar hname]
          exact Bool.false_ne_true)]
    rcases h.after_name hspace with hnil | hopening
    · rw [hnil] at hhead
      cases hhead
    · rw [hhead] at hopening
      rw [Option.some.inj hopening] at hc
      cases hc
  | quoted hcontent hne =>
    obtain ⟨d, t, htext, hd⟩ := h.head
    have hfirst := congrArg List.head? htext
    rw [← Option.some.inj hfirst] at hd
    cases hd

/-- Stripping keeps a first character that is not white space. -/
theorem strip_head {t : Text} {c d : PyChar} (hc : t.head? = some c) (hspace : c.isSpace = false)
    (hd : (Text.strip t).head? = some d) : d = c := by
  cases t with
  | nil => cases hc
  | cons e t =>
    obtain rfl : e = c := Option.some.inj hc
    have hpre := List.rdropWhile_prefix (p := PyChar.isSpace) (l := e :: t)
    rw [Text.strip, List.dropWhile_cons_of_neg (by rw [hspace]; exact Bool.false_ne_true)] at hd
    cases hrest : (e :: t).rdropWhile PyChar.isSpace with
    | nil =>
      rw [hrest] at hd
      cases hd
    | cons f rest =>
      rw [hrest] at hd hpre
      rw [← Option.some.inj hd]
      exact (List.cons_prefix_cons.mp hpre).1

/-- No type is also a field of another type. -/
theorem not_written_tupleField {argument name type : Text} {parsed : ClickHouseType}
    (h : Written argument parsed) (hfield : tupleField argument = some (name, type))
    (inner : ClickHouseType) : ¬ Written (Text.strip type) inner := by
  intro hinner
  obtain ⟨hname, after, rfl, htype⟩ := tupleField_eq_some hfield
  obtain ⟨-, -, ⟨c, hc, hspace⟩, hrest | hwhite⟩ := fieldType?_eq_some htype
  · cases hname with
    | @bare d t hstart hchars =>
      have hafter : (d :: t ++ after).dropWhile PyChar.isNameChar = after := by
        rw [List.dropWhile_append_of_pos]
        · cases after with
          | nil => rfl
          | cons e after =>
            obtain rfl : e = c := Option.some.inj hc
            apply List.dropWhile_cons_of_neg
            intro hchar
            rw [isSpace_of_isNameChar hchar] at hspace
            cases hspace
        · intro e he
          rcases List.mem_cons.mp he with rfl | he
          · exact PyChar.isNameChar_of_isNameStart hstart
          · exact hchars e he
      rcases h.after_name (by rw [hafter, ← hrest]) with hnil | hopening
      · rw [hnil] at hinner
        exact hinner.ne_nil rfl
      · obtain ⟨e, u, htext, hletter⟩ := hinner.head
        have hfirst := strip_head hopening rfl (congrArg List.head? htext)
        rw [hfirst] at hletter
        cases hletter
    | quoted hcontent hne =>
      obtain ⟨d, t, htext, hd⟩ := h.head
      have hfirst := congrArg List.head? htext
      rw [← Option.some.inj hfirst] at hd
      cases hd
  · rw [hwhite] at hinner
    exact hinner.ne_nil rfl

theorem argument_field {name type : Text} (hname : FieldName name) (htype : Argument type) :
    Argument (name ++ str " " ++ type) := by
  obtain ⟨c, t, rfl, hc⟩ := hname.head
  refine ⟨?_, ⟨?_, ?_⟩, List.cons_ne_nil _ _⟩
  · apply Delimiters.Closed.append
    · apply Delimiters.Closed.append hname.closed
      apply Delimiters.Closed.of_plain
      intro d hd
      rw [List.mem_singleton.mp hd]
      exact plain_of_isSpace rfl
    · exact htype.closed
  · intro d hd
    rwa [← Option.some.inj hd]
  · intro d hd
    apply htype.trimmed.2 d
    rwa [List.getLast?_append_of_ne_nil _ htype.ne_nil] at hd

end ClickHouse
end DaftOlap
