/-
What `parseClickHouseType` accepts.

A parsed type is a name, alone or followed by closed pieces in brackets, and is itself
closed.
-/
import DaftOlap.ClickHouse.TypeSplit

namespace DaftOlap
namespace ClickHouse

open Python Logic

variable {value : Text}

/-- The text of a type, without white space around it. -/
inductive Written : Text → ClickHouseType → Prop
  | bare {name : Text} : isTypeName name = true → Written name { name }
  | applied {name pad : Text} {pieces : List Text} :
      isTypeName name = true → White pad → Pieces pieces →
        Written (name ++ pad ++ PyChar.scalar '(' :: (Text.join (str ",") pieces ++ str ")"))
          { name, arguments := pieces.map Text.strip }

theorem isNameChar_of_isTypeName {name : Text} (h : isTypeName name = true) :
    ∀ c ∈ name, c.isNameChar = true := by
  cases name with
  | nil => cases h
  | cons d rest =>
    simp only [isTypeName, Bool.and_eq_true, List.all_eq_true] at h
    intro c hc
    rcases List.mem_cons.mp hc with rfl | hc
    · rw [PyChar.isNameChar, h.1]
      rfl
    · exact h.2 c hc

theorem isTypeName_ne_nil {name : Text} (h : isTypeName name = true) : name ≠ [] := by
  intro hnil
  rw [hnil] at h
  cases h

theorem trimmed_of_isNameChar {t : Text} (h : ∀ c ∈ t, c.isNameChar = true) : Trimmed t :=
  ⟨fun c hc => isSpace_of_isNameChar (h c (List.mem_of_head? hc)),
    fun c hc => isSpace_of_isNameChar (h c (List.mem_of_getLast? hc))⟩

theorem takeWhile_opening {head : Text} (h : ∀ c ∈ head, delimiters.Plain c) (rest : Text) :
    (head ++ PyChar.scalar '(' :: rest).takeWhile (· ≠ PyChar.scalar '(') = head := by
  have hhead : ∀ c ∈ head, decide (c ≠ PyChar.scalar '(') = true := by
    intro c hc
    exact decide_eq_true (h c hc).2.1
  rw [List.takeWhile_append_of_pos hhead, List.takeWhile_cons_of_neg (by simp), List.append_nil]

theorem parseClickHouseType_of_written {parsed : ClickHouseType}
    (h : Written (Text.strip value) parsed) : parseClickHouseType value = .ok parsed := by
  rw [parseClickHouseType]
  generalize Text.strip value = text at h
  cases h with
  | bare hname =>
    have hhead : text.takeWhile (· ≠ PyChar.scalar '(') = text := by
      rw [List.takeWhile_eq_self_iff]
      intro c hc
      exact decide_eq_true (plain_of_isNameChar (isNameChar_of_isTypeName hname c hc)).2.1
    show (if text = [] then _ else _) = _
    rw [if_neg (isTypeName_ne_nil hname), hhead, if_pos rfl, if_pos hname]
  | @applied name pad pieces hname hpad hpieces =>
    have hplain : ∀ c ∈ name ++ pad, delimiters.Plain c := by
      intro c hc
      rcases List.mem_append.mp hc with hc | hc
      · exact plain_of_isNameChar (isNameChar_of_isTypeName hname c hc)
      · exact plain_of_isSpace (hpad c hc)
    have hstrip : Text.strip (name ++ pad) = name := by
      have hbefore : White [] := fun c hc => by cases hc
      have hdropped := Text.strip_pad hbefore hpad name
      rw [List.nil_append] at hdropped
      rw [hdropped, Text.strip_of_trimmed (trimmed_of_isNameChar (isNameChar_of_isTypeName hname))]
    have hlast : (name ++ pad ++ PyChar.scalar '(' ::
        (Text.join (str ",") pieces ++ str ")")).getLast? = some (PyChar.scalar ')') := by
      simp [str, List.getLast?_append, List.getLast?_cons]
    have hinner : ((name ++ pad ++ PyChar.scalar '(' ::
        (Text.join (str ",") pieces ++ str ")")).drop ((name ++ pad).length + 1)).dropLast =
        Text.join (str ",") pieces := by
      rw [List.drop_append, List.drop_of_length_le (by omega)]
      simp [str]
    show (if _ = [] then _ else _) = _
    rw [if_neg (by simp), takeWhile_opening hplain, if_neg (by simp), if_neg (by rw [hlast]; simp),
      hstrip, hinner, if_neg (by rw [hname]; simp), splitTypeArguments_join hpieces]
    rfl

/-- A text that has an opening bracket and ends in a closing one. -/
theorem exists_inner {text : Text}
    (hlength : (text.takeWhile (· ≠ PyChar.scalar '(')).length ≠ text.length)
    (hlast : text.getLast? = some (PyChar.scalar ')')) :
    ∃ inner, text = text.takeWhile (· ≠ PyChar.scalar '(') ++
      PyChar.scalar '(' :: (inner ++ str ")") := by
  have hsplit := List.takeWhile_append_dropWhile (p := (· ≠ PyChar.scalar '(')) (l := text)
  generalize text.takeWhile (· ≠ PyChar.scalar '(') = head at hlength hsplit
  have hfirst := List.head?_dropWhile_not (· ≠ PyChar.scalar '(') text
  cases hrest : text.dropWhile (· ≠ PyChar.scalar '(') with
  | nil =>
    rw [hrest, List.append_nil] at hsplit
    rw [hsplit] at hlength
    exact absurd rfl hlength
  | cons c rest =>
    rw [hrest] at hsplit hfirst
    obtain rfl : c = PyChar.scalar '(' := by simpa using hfirst
    rw [← hsplit, List.getLast?_append, List.getLast?_cons] at hlast
    rcases List.eq_nil_or_concat rest with rfl | ⟨inner, d, rfl⟩
    · cases hlast
    · obtain rfl : d = PyChar.scalar ')' := by simpa using hlast
      exact ⟨inner, by rw [← hsplit]; simp [str]⟩

/-- The name of a type, with the white space before its bracket. -/
theorem exists_name_pad {head rest : Text} (htrimmed : Trimmed (head ++ rest)) :
    ∃ pad, White pad ∧ head = Text.strip head ++ pad := by
  obtain ⟨before, after, hbefore, hafter, hhead⟩ := Text.exists_pad head
  refine ⟨after, hafter, ?_⟩
  cases before with
  | nil => exact hhead
  | cons c before =>
    have hspace := hbefore c List.mem_cons_self
    rw [htrimmed.1 c (by rw [hhead]; rfl)] at hspace
    cases hspace

theorem written_of_parseClickHouseType {parsed : ClickHouseType}
    (h : parseClickHouseType value = .ok parsed) : Written (Text.strip value) parsed := by
  rw [parseClickHouseType] at h
  have htrimmed := Text.trimmed_strip value
  generalize Text.strip value = text at h htrimmed
  simp only at h
  split at h
  · cases h
  · split at h
    · split at h
      · next hname =>
        rw [← Except.ok.inj h]
        exact .bare hname
      · cases h
    · next hlength =>
      split at h
      · cases h
      · next hlast =>
        split at h
        · cases h
        · next hname =>
          rw [not_not] at hlast hname
          obtain ⟨arguments, harguments, h⟩ := bind_eq_ok.mp h
          obtain ⟨inner, hinner⟩ := exists_inner hlength hlast
          generalize text.takeWhile (· ≠ PyChar.scalar '(') = head at hname harguments hinner h
          obtain ⟨pad, hpad, hhead⟩ := exists_name_pad (hinner ▸ htrimmed)
          have hdrop : (text.drop (head.length + 1)).dropLast = inner := by
            rw [hinner, List.drop_append, List.drop_of_length_le (by omega)]
            simp [str]
          rw [hdrop] at harguments
          obtain ⟨pieces, hpieces, hjoin, rfl⟩ := pieces_of_splitTypeArguments harguments
          rw [← Except.ok.inj h, hinner, ← hjoin]
          nth_rewrite 1 [hhead]
          exact .applied hname hpad hpieces

theorem parseClickHouseType_eq_ok {parsed : ClickHouseType} :
    parseClickHouseType value = .ok parsed ↔ Written (Text.strip value) parsed :=
  ⟨written_of_parseClickHouseType, parseClickHouseType_of_written⟩

/-- What a list of arguments holds. -/
structure Argument (t : Text) : Prop where
  closed : Closed t
  trimmed : Trimmed t
  ne_nil : t ≠ []

namespace Written

variable {text : Text} {parsed : ClickHouseType}

theorem closed (h : Written text parsed) : Closed text := by
  cases h with
  | bare hname =>
    exact .of_plain fun c hc => plain_of_isNameChar (isNameChar_of_isTypeName hname c hc)
  | @applied name pad pieces hname hpad hpieces =>
    apply Delimiters.Closed.append
    · apply Delimiters.Closed.append
      · exact .of_plain fun c hc => plain_of_isNameChar (isNameChar_of_isTypeName hname c hc)
      · exact .of_plain fun c hc => plain_of_isSpace (hpad c hc)
    · exact Delimiters.Closed.brackets hpieces.closed

theorem trimmed (h : Written text parsed) : Trimmed text := by
  cases h with
  | bare hname => exact trimmed_of_isNameChar (isNameChar_of_isTypeName hname)
  | @applied name pad pieces hname hpad hpieces =>
    have hchars := isNameChar_of_isTypeName hname
    constructor
    · intro c hc
      cases name with
      | nil => cases hname
      | cons d name =>
        obtain rfl : d = c := Option.some.inj hc
        exact isSpace_of_isNameChar (hchars d List.mem_cons_self)
    · intro c hc
      obtain rfl : PyChar.scalar ')' = c := by
        simpa [str, List.getLast?_append, List.getLast?_cons] using hc
      rfl

theorem parse_eq_ok (h : Written text parsed) : parseClickHouseType text = .ok parsed := by
  apply parseClickHouseType_of_written
  rwa [Text.strip_of_trimmed h.trimmed]

theorem ne_nil (h : Written text parsed) : text ≠ [] := by
  cases h with
  | bare hname => exact isTypeName_ne_nil hname
  | applied _ _ _ => simp

theorem argument (h : Written text parsed) : Argument text := ⟨h.closed, h.trimmed, h.ne_nil⟩

theorem isTypeName_name (h : Written text parsed) : isTypeName parsed.name = true := by
  cases h with
  | bare hname => exact hname
  | applied hname _ _ => exact hname

theorem arguments (h : Written text parsed) :
    ∀ argument ∈ parsed.arguments, Argument argument ∧ ∀ c ∈ argument, c ∈ text := by
  cases h with
  | bare _ =>
    intro argument hargument
    cases hargument
  | applied hname hpad hpieces =>
    intro argument hargument
    obtain ⟨piece, hpiece, rfl⟩ := List.mem_map.mp hargument
    refine ⟨⟨closed_strip (hpieces.closed piece hpiece), Text.trimmed_strip piece,
      hpieces.filled piece hpiece⟩, ?_⟩
    intro c hc
    apply List.mem_append_right
    apply List.mem_cons_of_mem
    exact List.mem_append_left _ (Text.mem_join_of_mem hpiece (mem_of_mem_strip hc))

/-- After its name a type ends, or an opening bracket follows. -/
theorem after_name (h : Written text parsed) {rest : Text}
    (hrest : (text.dropWhile PyChar.isNameChar).dropWhile PyChar.isSpace = rest) :
    rest = [] ∨ rest.head? = some (PyChar.scalar '(') := by
  cases h with
  | bare hname =>
    rw [List.dropWhile_eq_nil_iff.mpr (isNameChar_of_isTypeName hname)] at hrest
    exact Or.inl hrest.symm
  | @applied name pad pieces hname hpad hpieces =>
    right
    rw [List.append_assoc, List.dropWhile_append_of_pos (isNameChar_of_isTypeName hname)] at hrest
    have hspace : (pad ++ PyChar.scalar '(' ::
        (Text.join (str ",") pieces ++ str ")")).dropWhile PyChar.isNameChar =
        pad ++ PyChar.scalar '(' :: (Text.join (str ",") pieces ++ str ")") := by
      cases pad with
      | nil => rfl
      | cons c pad =>
        apply List.dropWhile_cons_of_neg
        intro hc
        have hwhite := hpad c List.mem_cons_self
        rw [isSpace_of_isNameChar hc] at hwhite
        cases hwhite
    rw [hspace, List.dropWhile_append_of_pos hpad] at hrest
    rw [← hrest]
    rfl

end Written

/-! ## Lists of arguments -/

/-- A part with white space around it. -/
def Padded (part piece : Text) : Prop :=
  ∃ before after, White before ∧ White after ∧ piece = before ++ part ++ after

/-- The text lists the parts: single commas separate them, with white space around. -/
def Lists (parts : List Text) (value : Text) : Prop :=
  parts ≠ [] ∧ (∀ part ∈ parts, Argument part) ∧
    ∃ pieces, List.Forall₂ Padded parts pieces ∧ Text.join (str ",") pieces = value

theorem Padded.strip {part piece : Text} (h : Padded part piece) (hpart : Argument part) :
    Closed piece ∧ Text.strip piece = part := by
  obtain ⟨before, after, hbefore, hafter, rfl⟩ := h
  constructor
  · apply Delimiters.Closed.append
    · exact (Delimiters.Closed.of_plain fun c hc => plain_of_isSpace (hbefore c hc)).append
        hpart.closed
    · exact .of_plain fun c hc => plain_of_isSpace (hafter c hc)
  · rw [Text.strip_pad hbefore hafter, Text.strip_of_trimmed hpart.trimmed]

/-- The pieces of a list, which are its parts once stripped. -/
theorem Lists.pieces {parts : List Text} (h : Lists parts value) :
    ∃ pieces, Pieces pieces ∧ Text.join (str ",") pieces = value ∧
      pieces.map Text.strip = parts := by
  obtain ⟨hne, harguments, pieces, hpadded, hjoin⟩ := h
  have hmap : pieces.map Text.strip = parts := by
    clear hne hjoin
    induction hpadded with
    | nil => rfl
    | @cons part piece parts pieces hpiece _ ih =>
      rw [List.map_cons, (hpiece.strip (harguments part List.mem_cons_self)).2,
        ih fun other hother => harguments other (List.mem_cons_of_mem _ hother)]
  refine ⟨pieces, ⟨?_, ?_, ?_⟩, hjoin, hmap⟩
  · rintro rfl
    exact hne hmap.symm
  · intro piece hpiece
    obtain ⟨part, hpart, hpad⟩ := exists_of_mem_right hpadded piece hpiece
    exact (hpad.strip (harguments part hpart)).1
  · intro piece hpiece
    obtain ⟨part, hpart, hpad⟩ := exists_of_mem_right hpadded piece hpiece
    rw [(hpad.strip (harguments part hpart)).2]
    exact (harguments part hpart).ne_nil

theorem join_comma_space (first : Text) (rest : List Text) :
    Text.join (str ", ") (first :: rest) =
      Text.join (str ",") (first :: rest.map (PyChar.scalar ' ' :: ·)) := by
  induction rest generalizing first with
  | nil => simp
  | cons next rest ih =>
    rw [Text.join_cons_cons, ih next]
    cases rest with
    | nil => simp [str]
    | cons other rest => simp [str]

theorem lists_join {parts : List Text} (hne : parts ≠ [])
    (h : ∀ part ∈ parts, Argument part) : Lists parts (Text.join (str ", ") parts) := by
  cases parts with
  | nil => exact absurd rfl hne
  | cons first rest =>
    have hnil : White [] := fun c hc => by cases hc
    have hspace : White (str " ") := by
      intro c hc
      rw [List.mem_singleton.mp hc]
      rfl
    refine ⟨hne, h, first :: rest.map (PyChar.scalar ' ' :: ·), ?_, (join_comma_space first rest).symm⟩
    refine .cons ⟨[], [], hnil, hnil, by simp⟩ ?_
    rw [List.forall₂_map_right_iff, List.forall₂_same]
    intro part _
    exact ⟨str " ", [], hspace, hnil, by simp [str]⟩

/-- A name and its arguments read back. -/
theorem written_printed {name : Text} {arguments : List Text}
    (hname : isTypeName name = true) (hne : arguments ≠ [])
    (harguments : ∀ argument ∈ arguments, Argument argument) :
    Written (name ++ str "(" ++ Text.join (str ", ") arguments ++ str ")")
      { name, arguments } := by
  obtain ⟨pieces, hpieces, hjoin, hparts⟩ := (lists_join hne harguments).pieces
  have hwritten := Written.applied hname (show White [] from fun c hc => by cases hc) hpieces
  rw [hparts, hjoin, List.append_nil] at hwritten
  simpa [str] using hwritten

/-! ## Arguments of leaves -/

theorem integer_head {t : Text} (h : isInteger t = true) :
    ∃ c rest, t = c :: rest ∧ c.isAsciiDigit = true := by
  cases t with
  | nil => cases h
  | cons c rest =>
    simp only [isInteger, Bool.and_eq_true, List.all_eq_true] at h
    exact ⟨c, rest, rfl, h.2 c List.mem_cons_self⟩

theorem timeZone_body {t : Text} (h : isTimeZone t = true) :
    ∃ body, t = PyChar.scalar '\'' :: (body ++ [PyChar.scalar '\'']) ∧ body ≠ [] ∧
      ∀ c ∈ body, isTimeZoneChar c = true := by
  unfold isTimeZone at h
  split at h
  · next c rest =>
    simp only [Bool.and_eq_true, beq_iff_eq, decide_eq_true_eq, List.all_eq_true] at h
    obtain ⟨⟨⟨rfl, hlast⟩, hlength⟩, hchars⟩ := h
    have hne : rest ≠ [] := by
      intro hnil
      rw [hnil] at hlast
      cases hlast
    rw [List.getLast?_eq_getLast_of_ne_nil hne] at hlast
    have hsplit := List.dropLast_append_getLast hne
    rw [Option.some.inj hlast] at hsplit
    refine ⟨rest.dropLast, by rw [hsplit], ?_, hchars⟩
    intro hnil
    rw [hnil] at hsplit
    rw [← hsplit] at hlength
    exact absurd hlength (by decide)
  · cases h

theorem isTimeZone_quoted {body : Text} (hne : body ≠ [])
    (h : ∀ c ∈ body, isTimeZoneChar c = true) :
    isTimeZone (PyChar.scalar '\'' :: (body ++ [PyChar.scalar '\''])) = true := by
  have hlength : 1 < (body ++ [PyChar.scalar '\'']).length := by
    have := List.length_pos_iff.mpr hne
    rw [List.length_append, List.length_singleton]
    omega
  have hchars : (body ++ [PyChar.scalar '\'']).dropLast.all isTimeZoneChar = true := by
    rw [List.dropLast_concat, List.all_eq_true]
    exact h
  rw [isTimeZone, List.getLast?_concat, hchars, decide_eq_true hlength]
  rfl

/-- A time zone is one argument. -/
theorem argument_timeZone {t : Text} (h : isTimeZone t = true) : Argument t := by
  obtain ⟨body, rfl, -, hchars⟩ := timeZone_body h
  have hbody : delimiters.Quotation (PyChar.scalar '\'') body := by
    clear h
    induction body with
    | nil => exact .nil
    | cons c body ih =>
      have hc := hchars c List.mem_cons_self
      refine .plain ?_ ?_ (ih fun d hd => hchars d (List.mem_cons_of_mem c hd))
      · intro heq
        rw [heq] at hc
        cases hc
      · intro heq
        rw [heq] at hc
        cases hc
  refine ⟨hbody.closed (by decide), ⟨?_, ?_⟩, List.cons_ne_nil _ _⟩
  · intro c hc
    rw [← Option.some.inj hc]
    rfl
  · intro c hc
    rw [List.getLast?_cons, List.getLast?_concat] at hc
    rw [← Option.some.inj hc]
    rfl

theorem argument_integer {t : Text} (h : isInteger t = true) : Argument t := by
  simp only [isInteger, Bool.and_eq_true, decide_eq_true_eq, List.all_eq_true] at h
  have hchars : ∀ c ∈ t, c.isNameChar = true := by
    intro c hc
    rw [PyChar.isNameChar, h.2 c hc]
    simp
  exact ⟨.of_plain fun c hc => plain_of_isNameChar (hchars c hc), trimmed_of_isNameChar hchars, h.1⟩

/-! ## Errors -/

theorem splitStep_schema {state : SplitState} {c : PyChar} {e : PyException}
    (h : splitStep value state c = .error e) : e.kind? = some .schema := by
  unfold splitStep at h
  split at h
  · split at h
    · cases h
    · split at h
      · cases h
      · split at h <;> cases h
  · split at h
    · cases h
    · split at h
      · cases h
      · split at h
        · split at h
          · rw [← Except.error.inj h]
            rfl
          · cases h
        · split at h
          · simp only at h
            split at h
            · rw [← Except.error.inj h]
              rfl
            · cases h
          · cases h

theorem foldlM_splitStep_schema {t : Text} {state : SplitState} {e : PyException}
    (h : t.foldlM (splitStep value) state = .error e) : e.kind? = some .schema := by
  induction t generalizing state with
  | nil => cases h
  | cons c t ih =>
    rw [List.foldlM_cons] at h
    cases hstep : splitStep value state c with
    | error e' =>
      rw [hstep, error_bind] at h
      rw [← Except.error.inj h]
      exact splitStep_schema hstep
    | ok next =>
      rw [hstep, ok_bind] at h
      exact ih h

theorem splitTypeArguments_schema {e : PyException} (h : splitTypeArguments value = .error e) :
    e.kind? = some .schema := by
  rw [splitTypeArguments] at h
  cases hfold : value.foldlM (splitStep value) {} with
  | error e' =>
    rw [hfold, error_bind] at h
    rw [← Except.error.inj h]
    exact foldlM_splitStep_schema hfold
  | ok state =>
    rw [hfold, ok_bind] at h
    split at h
    · rw [← Except.error.inj h]
      rfl
    · simp only at h
      split at h
      · rw [← Except.error.inj h]
        rfl
      · cases h

/-! ## Splitting lists -/

theorem lists_of_splitTypeArguments {parts : List Text}
    (h : splitTypeArguments value = .ok parts) : Lists parts value := by
  obtain ⟨pieces, hpieces, hjoin, rfl⟩ := pieces_of_splitTypeArguments h
  refine ⟨?_, ?_, pieces, ?_, hjoin⟩
  · rw [Ne, List.map_eq_nil_iff]
    exact hpieces.nonempty
  · intro part hpart
    obtain ⟨piece, hpiece, rfl⟩ := List.mem_map.mp hpart
    exact ⟨closed_strip (hpieces.closed piece hpiece), Text.trimmed_strip piece,
      hpieces.filled piece hpiece⟩
  · rw [List.forall₂_map_left_iff, List.forall₂_same]
    intro piece _
    exact Text.exists_pad piece

/-- White space around the parts does not count. -/
theorem splitTypeArguments_of_lists {parts : List Text} (h : Lists parts value) :
    splitTypeArguments value = .ok parts :=
  splitTypeArguments_eq_ok.mpr h.pieces

/-- Splitting undoes joining and fails with a schema error on all other texts. -/
theorem splitTypeArguments_exact :
    (∀ parts, parts ≠ [] → (∀ part ∈ parts, Argument part) →
      splitTypeArguments (Text.join (str ", ") parts) = .ok parts) ∧
    (∀ value parts, splitTypeArguments value = .ok parts ↔ Lists parts value) ∧
    ∀ value, (∀ parts, ¬ Lists parts value) →
      ∃ e, splitTypeArguments value = .error e ∧ e.kind? = some .schema := by
  refine ⟨?_, ?_, ?_⟩
  · intro parts hne h
    exact splitTypeArguments_of_lists (lists_join hne h)
  · intro value parts
    exact ⟨lists_of_splitTypeArguments, splitTypeArguments_of_lists⟩
  · intro value h
    cases hsplit : splitTypeArguments value with
    | ok parts => exact absurd (lists_of_splitTypeArguments hsplit) (h parts)
    | error e => exact ⟨e, rfl, splitTypeArguments_schema hsplit⟩

example : splitTypeArguments (str "'a\\',' , f(`,`, 2)") =
    .ok [str "'a\\','", str "f(`,`, 2)"] := by decide

theorem parseClickHouseType_schema {e : PyException} (h : parseClickHouseType value = .error e) :
    e.kind? = some .schema := by
  rw [parseClickHouseType] at h
  simp only at h
  split at h
  · rw [← Except.error.inj h]
    rfl
  · split at h
    · split at h
      · cases h
      · rw [← Except.error.inj h]
        rfl
    · split at h
      · rw [← Except.error.inj h]
        rfl
      · split at h
        · rw [← Except.error.inj h]
          rfl
        · cases hsplit : splitTypeArguments ((Text.strip value).drop
              (((Text.strip value).takeWhile (· ≠ PyChar.scalar '(')).length + 1)).dropLast with
          | error e' =>
            rw [hsplit, error_bind] at h
            rw [← Except.error.inj h]
            exact splitTypeArguments_schema hsplit
          | ok arguments =>
            rw [hsplit] at h
            cases h

end ClickHouse
end DaftOlap
