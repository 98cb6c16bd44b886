/-
What the validator accepts and how the rewriter answers, one level at a time.

`Supported` lists the types whose name and arguments the validator accepts; the
arguments of nested types are types or, in tuples, named fields.
-/
import DaftOlap.ClickHouse.TypeFields

namespace DaftOlap
namespace ClickHouse

open Python Logic

/-- `validateTypeExpression` accepts. -/
def Valid (value : Text) : Prop := validateTypeExpression value = .ok ()

/-- `validateTypeExpression` raises a schema error. -/
def Refused (value : Text) : Prop :=
  ∃ e, validateTypeExpression value = .error e ∧ e.kind? = some .schema

/-- An element of a tuple that the validator accepts. -/
inductive Element : Text → Prop
  | type {argument : Text} : Valid argument → Element argument
  | field {argument name type : Text} : Refused argument →
      tupleField argument = some (name, type) → Valid type → Element argument

/-- The types that are kept as they are written. -/
inductive Verbatim : ClickHouseType → Prop
  | fixedString {size : Text} {n : Nat} : isInteger size = true → intOfDigits size = .ok n →
      1 ≤ n → Verbatim ⟨str "FixedString", [size]⟩
  | decimalScale {name scale : Text} {limit n : Nat} : (name, limit) ∈ decimalScaleLimits →
      isInteger scale = true → intOfDigits scale = .ok n → n ≤ limit → Verbatim ⟨name, [scale]⟩
  | decimal {precision scale : Text} {p s : Nat} : isInteger precision = true →
      isInteger scale = true → intOfDigits precision = .ok p → intOfDigits scale = .ok s →
      1 ≤ p → p ≤ maxDecimalPrecision → s ≤ p → Verbatim ⟨str "Decimal", [precision, scale]⟩
  | dateTime64 {precision : Text} {zone : Option Text} {p : Nat} : isInteger precision = true →
      intOfDigits precision = .ok p → p ≤ maxDateTime64Precision →
      (∀ timezone ∈ zone, isTimeZone timezone = true) →
      Verbatim ⟨str "DateTime64", precision :: zone.toList⟩

inductive Supported : ClickHouseType → Prop
  | simple {name : Text} : name ∈ simpleTypes → name ∉ unsupportedSimple → Supported ⟨name, []⟩
  | wrapper {name argument : Text} : name ∈ wrapperTypes → Valid argument →
      Supported ⟨name, [argument]⟩
  | map {key value : Text} : Valid key → Valid value → Supported ⟨str "Map", [key, value]⟩
  | tuple {arguments : List Text} : arguments ≠ [] →
      (∀ argument ∈ arguments, Element argument) → Supported ⟨str "Tuple", arguments⟩
  | verbatim {parsed : ClickHouseType} : Verbatim parsed → Supported parsed
  | dateTime {zone : Option Text} : (∀ timezone ∈ zone, isTimeZone timezone = true) →
      Supported ⟨str "DateTime", zone.toList⟩
  | enum {name : Text} {arguments : List Text} : name = str "Enum8" ∨ name = str "Enum16" →
      arguments ≠ [] → Supported ⟨name, arguments⟩

variable {value : Text} {parsed : ClickHouseType}

/-- What does not parse is refused. -/
theorem refused_of_not_written (h : ∀ parsed, ¬ Written (Text.strip value) parsed) :
    Refused value := by
  cases hparse : parseClickHouseType value with
  | ok parsed => exact absurd (parseClickHouseType_eq_ok.mp hparse) (h parsed)
  | error e =>
    refine ⟨e, ?_, ?_⟩
    · rw [validateTypeExpression]
      split
      · next e' he =>
        rw [he] at hparse
        rw [Except.error.inj hparse]
      · next parsed hok =>
        rw [hok] at hparse
        cases hparse
    · exact parseClickHouseType_schema hparse

/-! ## The validator -/

/-- The validation of one element of a tuple. -/
def validateElement (argument : Text) : Except PyException Unit :=
  match validateTypeExpression argument with
  | .ok () => .ok ()
  | .error e =>
    if e.kind? ≠ some .schema then .error e
    else
      match tupleField argument with
      | none => .error e
      | some (_, type) => validateTypeExpression type

/-- One level of the validator. -/
theorem validate_of_parse {name : Text} {arguments : List Text}
    (hparse : parseClickHouseType value = .ok ⟨name, arguments⟩) :
    validateTypeExpression value =
      if name ∈ simpleTypes then
        if arguments ≠ [] ∨ name ∈ unsupportedSimple then .error (unsupportedType value)
        else .ok ()
      else if name ∈ wrapperTypes then
        if arguments.length ≠ 1 then .error (invalidType name " type: " value)
        else arguments.forM validateTypeExpression
      else if name = str "Map" then
        if arguments.length ≠ 2 then .error (invalidType name " type: " value)
        else arguments.forM validateTypeExpression
      else if name = str "Tuple" then
        if arguments = [] then .error (invalidType name " type: " value)
        else arguments.forM validateElement
      else if name = str "Decimal256" then .error (unsupportedType value)
      else if name = str "FixedString" ∨ name ∈ decimalScaleLimits.map Prod.fst then
        validateSingleIntegerType ⟨name, arguments⟩ value
      else if name = str "Decimal" then validateDecimalType ⟨name, arguments⟩ value
      else if name = str "DateTime" then validateDateTimeType ⟨name, arguments⟩ value
      else if name = str "DateTime64" then validateDateTime64Type ⟨name, arguments⟩ value
      else if (name = str "Enum8" ∨ name = str "Enum16") ∧ arguments ≠ [] then .ok ()
      else .error (unsupportedType value) := by
  rw [validateTypeExpression]
  split
  · next e he =>
    rw [he] at hparse
    cases hparse
  · next parsed hok =>
    obtain rfl := Except.ok.inj (hok.symm.trans hparse)
    have htypes : arguments.attach.forM (fun argument => validateTypeExpression argument.1) =
        arguments.forM validateTypeExpression := forM_attach_eq fun argument _ => rfl
    simp only
    rw [htypes, forM_attach_eq]
    intro argument hargument
    dsimp only
    rw [validateElement]
    cases validateTypeExpression argument with
    | ok u => rfl
    | error e =>
      dsimp only
      split
      · rfl
      · split
        · next hnone => rw [hnone]
        · next hsome => rw [hsome]

theorem validateElement_eq_ok {argument : Text} :
    validateElement argument = .ok () ↔ Element argument := by
  constructor
  · intro h
    unfold validateElement at h
    split at h
    · next hvalid => exact .type hvalid
    · next e he =>
      split at h
      · cases h
      · next hkind =>
        split at h
        · cases h
        · next hfield => exact .field ⟨e, he, not_not.mp hkind⟩ hfield h
  · intro h
    cases h with
    | type hvalid => rw [validateElement, show validateTypeExpression argument = .ok () from hvalid]
    | field hrefused hfield hvalid =>
      obtain ⟨e, he, hkind⟩ := hrefused
      rw [validateElement, he]
      simp only
      rw [if_neg (not_not.mpr hkind), hfield]
      exact hvalid

theorem verbatim_of_singleInteger (h : validateSingleIntegerType parsed value = .ok ())
    (hname : parsed.name = str "FixedString" ∨ parsed.name ∈ decimalScaleLimits.map Prod.fst) :
    Verbatim parsed := by
  obtain ⟨name, arguments⟩ := parsed
  unfold validateSingleIntegerType at h
  split at h
  · next argument harguments =>
    obtain rfl : arguments = [argument] := harguments
    split at h
    · cases h
    · next hinteger =>
      obtain ⟨n, hn, h⟩ := bind_eq_ok.mp h
      split at h
      · next hfixed =>
        split at h
        · cases h
        · next hpos =>
          obtain rfl : name = str "FixedString" := hfixed
          exact .fixedString (not_not.mp hinteger) hn (Nat.le_of_not_lt hpos)
      · next hfixed =>
        obtain ⟨⟨_, limit⟩, hlimit, rfl⟩ := List.mem_map.mp (hname.resolve_left hfixed)
        split at h
        · cases h
        · next hle =>
          have hlookup : ∀ p ∈ decimalScaleLimits,
              (decimalScaleLimits.lookup p.1).getD 0 = p.2 := by decide
          rw [hlookup _ hlimit] at hle
          exact .decimalScale hlimit (not_not.mp hinteger) hn (Nat.le_of_not_lt hle)
  · cases h

theorem verbatim_of_decimal {arguments : List Text}
    (h : validateDecimalType ⟨str "Decimal", arguments⟩ value = .ok ()) :
    Verbatim ⟨str "Decimal", arguments⟩ := by
  unfold validateDecimalType at h
  split at h
  · next precision scale harguments =>
    obtain rfl : arguments = [precision, scale] := harguments
    split at h
    · cases h
    · next hinteger =>
      obtain ⟨p, hp, h⟩ := bind_eq_ok.mp h
      obtain ⟨s, hs, h⟩ := bind_eq_ok.mp h
      split at h
      · cases h
      · next hmax =>
        split at h
        · cases h
        · next hbounds =>
          obtain ⟨hprecision, hscale⟩ := not_not.mp hinteger
          exact .decimal hprecision hscale hp hs (by omega) (by omega) (by omega)
  · cases h

theorem dateTime_of_validate {arguments : List Text}
    (h : validateDateTimeType ⟨str "DateTime", arguments⟩ value = .ok ()) :
    ∃ zone : Option Text, arguments = zone.toList ∧
      ∀ timezone ∈ zone, isTimeZone timezone = true := by
  unfold validateDateTimeType at h
  split at h
  · next harguments => exact ⟨none, harguments, fun timezone hzone => by cases hzone⟩
  · next timezone harguments =>
    split at h
    · next hzone =>
      refine ⟨some timezone, harguments, ?_⟩
      intro other hother
      rwa [← Option.mem_some.mp hother]
    · cases h
  · cases h

theorem verbatim_of_dateTime64 {arguments : List Text}
    (h : validateDateTime64Type ⟨str "DateTime64", arguments⟩ value = .ok ()) :
    Verbatim ⟨str "DateTime64", arguments⟩ := by
  unfold validateDateTime64Type at h
  split at h
  · next precision rest harguments =>
    obtain rfl : arguments = precision :: rest := harguments
    split at h
    · cases h
    · next hshape =>
      obtain ⟨p, hp, h⟩ := bind_eq_ok.mp h
      rw [not_or, not_not] at hshape
      split at h
      · cases h
      · next hmax =>
        cases rest with
        | nil =>
          show Verbatim ⟨str "DateTime64", precision :: (none : Option Text).toList⟩
          exact .dateTime64 hshape.2 hp (Nat.le_of_not_lt hmax) fun timezone hzone => by cases hzone
        | cons timezone others =>
          obtain rfl : others = [] := by
            have hlength := hshape.1
            rw [List.length_cons] at hlength
            exact List.length_eq_zero_iff.mp (by omega)
          simp only at h
          split at h
          · next hzone =>
            show Verbatim ⟨str "DateTime64", precision :: (some timezone).toList⟩
            refine .dateTime64 hshape.2 hp (Nat.le_of_not_lt hmax) ?_
            intro other hother
            rwa [← Option.mem_some.mp hother]
          · cases h
  · cases h

theorem supported_of_validate (hparse : parseClickHouseType value = .ok parsed)
    (h : Valid value) : Supported parsed := by
  obtain ⟨name, arguments⟩ := parsed
  rw [Valid, validate_of_parse hparse] at h
  by_cases hsimple : name ∈ simpleTypes
  · rw [if_pos hsimple] at h
    by_cases hplain : arguments ≠ [] ∨ name ∈ unsupportedSimple
    · rw [if_pos hplain] at h
      cases h
    · rw [not_or, not_not] at hplain
      obtain ⟨rfl, hsupported⟩ := hplain
      exact .simple hsimple hsupported
  rw [if_neg hsimple] at h
  by_cases hwrapper : name ∈ wrapperTypes
  · rw [if_pos hwrapper] at h
    by_cases hlength : arguments.length ≠ 1
    · rw [if_pos hlength] at h
      cases h
    · rw [if_neg hlength, forM_eq_ok] at h
      obtain ⟨argument, rfl⟩ := List.length_eq_one_iff.mp (not_not.mp hlength)
      exact .wrapper hwrapper (h argument List.mem_cons_self)
  rw [if_neg hwrapper] at h
  by_cases hmap : name = str "Map"
  · rw [if_pos hmap] at h
    by_cases hlength : arguments.length ≠ 2
    · rw [if_pos hlength] at h
      cases h
    · rw [if_neg hlength, forM_eq_ok] at h
      obtain ⟨key, value', rfl⟩ := List.length_eq_two.mp (not_not.mp hlength)
      rw [hmap]
      exact .map (h key (by simp)) (h value' (by simp))
  rw [if_neg hmap] at h
  by_cases htuple : name = str "Tuple"
  · rw [if_pos htuple] at h
    by_cases hempty : arguments = []
    · rw [if_pos hempty] at h
      cases h
    · rw [if_neg hempty, forM_eq_ok] at h
      rw [htuple]
      exact .tuple hempty fun argument hargument =>
        validateElement_eq_ok.mp (h argument hargument)
  rw [if_neg htuple] at h
  by_cases h256 : name = str "Decimal256"
  · rw [if_pos h256] at h
    cases h
  rw [if_neg h256] at h
  by_cases hinteger : name = str "FixedString" ∨ name ∈ decimalScaleLimits.map Prod.fst
  · rw [if_pos hinteger] at h
    exact .verbatim (verbatim_of_singleInteger h hinteger)
  rw [if_neg hinteger] at h
  by_cases hdecimal : name = str "Decimal"
  · rw [if_pos hdecimal] at h
    subst hdecimal
    exact .verbatim (verbatim_of_decimal h)
  rw [if_neg hdecimal] at h
  by_cases hdateTime : name = str "DateTime"
  · rw [if_pos hdateTime] at h
    subst hdateTime
    obtain ⟨zone, rfl, hzone⟩ := dateTime_of_validate h
    exact .dateTime hzone
  rw [if_neg hdateTime] at h
  by_cases hdateTime64 : name = str "DateTime64"
  · rw [if_pos hdateTime64] at h
    subst hdateTime64
    exact .verbatim (verbatim_of_dateTime64 h)
  rw [if_neg hdateTime64] at h
  by_cases henum : (name = str "Enum8" ∨ name = str "Enum16") ∧ arguments ≠ []
  · exact .enum henum.1 henum.2
  · rw [if_neg henum] at h
    cases h

theorem wrapperTypes_names : ∀ name ∈ wrapperTypes,
    name ∉ simpleTypes ∧ isTypeName name = true := by
  decide

/-- The names that take arguments which are not types. -/
def leafNames : List Text :=
  [str "FixedString", str "Decimal", str "DateTime", str "DateTime64", str "Enum8", str "Enum16"] ++
    decimalScaleLimits.map Prod.fst

/-- The names of simple types, of nested types and of leaves are different from each other. -/
theorem leafNames_apart : ∀ name ∈ leafNames,
    name ∉ simpleTypes ∧ name ∉ wrapperTypes ∧ name ≠ str "Map" ∧ name ≠ str "Tuple" ∧
      name ≠ str "Decimal256" := by
  decide +kernel

theorem mem_leafNames {p : Text × ℕ} (h : p ∈ decimalScaleLimits) : p.1 ∈ leafNames :=
  List.mem_append_right _ (List.mem_map_of_mem h)

theorem decimalScaleLimits_names : ∀ p ∈ decimalScaleLimits,
    p.1 ≠ str "FixedString" ∧ p.1 ≠ str "DateTime" ∧ p.1 ∉ textTransportTypes ∧
      (decimalScaleLimits.lookup p.1).getD 0 = p.2 := by
  decide

theorem enum_names {name : Text} (h : name = str "Enum8" ∨ name = str "Enum16") :
    name ∈ leafNames ∧ name ∈ textTransportTypes ∧ name ≠ str "DateTime" := by
  have hnames : ∀ name ∈ [str "Enum8", str "Enum16"],
      name ∈ leafNames ∧ name ∈ textTransportTypes ∧ name ≠ str "DateTime" := by decide
  exact hnames name (by simpa using h)

/-- What the validator does with the name of a leaf. -/
theorem validate_leaf {name : Text} {arguments : List Text}
    (hparse : parseClickHouseType value = .ok ⟨name, arguments⟩) (hname : name ∈ leafNames) :
    validateTypeExpression value =
      if name = str "FixedString" ∨ name ∈ decimalScaleLimits.map Prod.fst then
        validateSingleIntegerType ⟨name, arguments⟩ value
      else if name = str "Decimal" then validateDecimalType ⟨name, arguments⟩ value
      else if name = str "DateTime" then validateDateTimeType ⟨name, arguments⟩ value
      else if name = str "DateTime64" then validateDateTime64Type ⟨name, arguments⟩ value
      else if (name = str "Enum8" ∨ name = str "Enum16") ∧ arguments ≠ [] then .ok ()
      else .error (unsupportedType value) := by
  obtain ⟨hsimple, hwrapper, hmap, htuple, h256⟩ := leafNames_apart name hname
  rw [validate_of_parse hparse, if_neg hsimple, if_neg hwrapper, if_neg hmap, if_neg htuple,
    if_neg h256]

theorem validateSingleIntegerType_decimalScale {name scale : Text} {limit n : Nat}
    (hlimit : (name, limit) ∈ decimalScaleLimits) (hinteger : isInteger scale = true)
    (hn : intOfDigits scale = .ok n) (hle : n ≤ limit) :
    validateSingleIntegerType ⟨name, [scale]⟩ value = .ok () := by
  obtain ⟨hfixed, -, -, hlookup⟩ := decimalScaleLimits_names _ hlimit
  rw [validateSingleIntegerType]
  show (if ¬ isInteger scale = true then _ else _) = _
  rw [if_neg (not_not.mpr hinteger), hn, ok_bind, if_neg hfixed, hlookup, if_neg (by omega)]

theorem valid_of_verbatim (hparse : parseClickHouseType value = .ok parsed)
    (h : Verbatim parsed) : Valid value := by
  cases h with
  | @fixedString size n hinteger hn hpos =>
    rw [Valid, validate_leaf hparse (by decide), if_pos (Or.inl rfl), validateSingleIntegerType]
    show (if ¬ isInteger size = true then _ else _) = _
    rw [if_neg (not_not.mpr hinteger), hn, ok_bind, if_pos rfl, if_neg (by omega)]
  | decimalScale hlimit hinteger hn hle =>
    rw [Valid, validate_leaf hparse (mem_leafNames hlimit),
      if_pos (Or.inr (List.mem_map_of_mem hlimit)),
      validateSingleIntegerType_decimalScale hlimit hinteger hn hle]
  | @decimal precision scale p s hprecision hscale hp hs hpos hmax hle =>
    rw [Valid, validate_leaf hparse (by decide), if_neg (by decide), if_pos rfl,
      validateDecimalType]
    show (if ¬ (isInteger precision = true ∧ isInteger scale = true) then _ else _) = _
    rw [if_neg (not_not.mpr ⟨hprecision, hscale⟩), hp, ok_bind, hs, ok_bind, if_neg (by omega),
      if_neg (by omega)]
  | @dateTime64 precision zone p hprecision hp hmax hzone =>
    rw [Valid, validate_leaf hparse (by decide), if_neg (by decide), if_neg (by decide),
      if_neg (by decide), if_pos rfl, validateDateTime64Type]
    have hshape : ¬ (1 < zone.toList.length ∨ ¬ isInteger precision = true) := by
      rw [not_or, not_not]
      exact ⟨by cases zone <;> simp, hprecision⟩
    show (if 1 < zone.toList.length ∨ ¬ isInteger precision = true then _ else _) = _
    rw [if_neg hshape, hp, ok_bind, if_neg (by omega)]
    cases zone with
    | none => rfl
    | some timezone =>
      show (if isTimeZone timezone = true then _ else _) = _
      rw [if_pos (hzone timezone rfl)]

theorem valid_of_supported (hparse : parseClickHouseType value = .ok parsed)
    (h : Supported parsed) : Valid value := by
  cases h with
  | simple hsimple hplain =>
    rw [Valid, validate_of_parse hparse, if_pos hsimple, if_neg]
    intro hbad
    exact hbad.elim (fun hne => hne rfl) hplain
  | wrapper hname hvalid =>
    rw [Valid, validate_of_parse hparse, if_neg (wrapperTypes_names _ hname).1, if_pos hname,
      if_neg (by simp), forM_eq_ok]
    intro argument hargument
    rw [List.mem_singleton.mp hargument]
    exact hvalid
  | map hkey hvalue =>
    rw [Valid, validate_of_parse hparse, if_neg (by decide), if_neg (by decide), if_pos rfl,
      if_neg (by simp), forM_eq_ok]
    intro argument hargument
    rcases List.mem_cons.mp hargument with rfl | hargument
    · exact hkey
    · rw [List.mem_singleton.mp hargument]
      exact hvalue
  | tuple hne helements =>
    rw [Valid, validate_of_parse hparse, if_neg (by decide), if_neg (by decide), if_neg (by decide),
      if_pos rfl, if_neg hne, forM_eq_ok]
    intro argument hargument
    exact validateElement_eq_ok.mpr (helements argument hargument)
  | verbatim hverbatim => exact valid_of_verbatim hparse hverbatim
  | @dateTime zone hzone =>
    rw [Valid, validate_leaf hparse (by decide), if_neg (by decide), if_neg (by decide), if_pos rfl]
    cases zone with
    | none => rfl
    | some timezone =>
      show (if isTimeZone timezone = true then _ else _) = _
      rw [if_pos (hzone timezone rfl)]
  | enum hname hne =>
    have hnames : ∀ name ∈ [str "Enum8", str "Enum16"],
        ¬ (name = str "FixedString" ∨ name ∈ decimalScaleLimits.map Prod.fst) ∧
        name ≠ str "Decimal" ∧ name ≠ str "DateTime" ∧ name ≠ str "DateTime64" := by decide
    obtain ⟨hinteger, hdecimal, hdateTime, hdateTime64⟩ := hnames _ (by simpa using hname)
    rw [Valid, validate_leaf hparse (enum_names hname).1, if_neg hinteger, if_neg hdecimal,
      if_neg hdateTime, if_neg hdateTime64, if_pos ⟨hname, hne⟩]

/-- The validator accepts what parses to a supported type. -/
theorem valid_iff : Valid value ↔
    ∃ parsed, parseClickHouseType value = .ok parsed ∧ Supported parsed := by
  constructor
  · intro h
    cases hparse : parseClickHouseType value with
    | ok parsed => exact ⟨parsed, rfl, supported_of_validate hparse h⟩
    | error e =>
      rw [Valid, validateTypeExpression] at h
      split at h
      · cases h
      · next hok =>
        rw [hok] at hparse
        cases hparse
  · intro h
    obtain ⟨parsed, hparse, hsupported⟩ := h
    exact valid_of_supported hparse hsupported

/-! ## The rewriter -/

/-- The transport type of a type without arguments. -/
def simpleTransport (name : Text) : Text :=
  if name = str "Date" then str "Date32"
  else if name ∈ textTransportTypes then str "String"
  else name

/-- The transport type of one element of a tuple. -/
def transportElement (argument : Text) : Except PyException Text :=
  match transportTypeExpression argument with
  | .ok t => .ok t
  | .error e =>
    if e.kind? ≠ some .schema then .error e
    else
      match tupleField argument with
      | none => .error e
      | some (name, type) => do return name ++ str " " ++ (← transportTypeExpression type)

/-- The transport type of a `DateTime` with these arguments. -/
def transportDateTime : List Text → Except PyException Text
  | [] => .ok (str "DateTime64(0)")
  | timezone :: _ =>
    if isTimeZone timezone then .ok (str "DateTime64(0, " ++ timezone ++ str ")")
    else .error (unsupportedTimezone timezone)

/-- One level of the rewriter. -/
theorem transport_of_parse {name : Text} {arguments : List Text} (hvalid : Valid value)
    (hparse : parseClickHouseType value = .ok ⟨name, arguments⟩) :
    transportTypeExpression value =
      if name ∈ simpleTypes then .ok (simpleTransport name)
      else if name ∈ wrapperTypes ∨ name = str "Map" then do
        let arguments ← arguments.mapM transportTypeExpression
        .ok (name ++ str "(" ++ Text.join (str ", ") arguments ++ str ")")
      else if name = str "Tuple" then do
        let arguments ← arguments.mapM transportElement
        .ok (str "Tuple(" ++ Text.join (str ", ") arguments ++ str ")")
      else if name = str "DateTime" then transportDateTime arguments
      else if name ∈ textTransportTypes then .ok (str "String")
      else .ok (Text.strip value) := by
  rw [transportTypeExpression, show validateTypeExpression value = .ok () from hvalid, ok_bind]
  split
  · next e he =>
    rw [he] at hparse
    cases hparse
  · next parsed hok =>
    obtain rfl := Except.ok.inj (hok.symm.trans hparse)
    have htypes : arguments.attach.mapM (fun argument => transportTypeExpression argument.1) =
        arguments.mapM transportTypeExpression := mapM_attach_eq fun argument _ => rfl
    have hsimple : (if name = str "Date" then Except.ok (str "Date32")
        else if name ∈ textTransportTypes then .ok (str "String") else .ok name) =
        (Except.ok (simpleTransport name) : Except PyException Text) := by
      rw [simpleTransport]
      split
      · rfl
      · split <;> rfl
    dsimp only
    rw [htypes, hsimple, mapM_attach_eq (g := transportElement)]
    · cases arguments <;> rfl
    intro argument hargument
    dsimp only
    rw [transportElement]
    cases transportTypeExpression argument with
    | ok t => rfl
    | error e =>
      dsimp only
      split
      · rfl
      · split
        · next hnone => rw [hnone]
        · next hsome => rw [hsome]

/-- The rewriter refuses what the validator refuses, and with the same error. -/
theorem transport_of_error {e : PyException} (h : validateTypeExpression value = .error e) :
    transportTypeExpression value = .error e := by
  rw [transportTypeExpression, h, error_bind]

theorem transportElement_type {argument t : Text} (h : transportTypeExpression argument = .ok t) :
    transportElement argument = .ok t := by
  rw [transportElement, h]

theorem transportElement_field {argument name type t : Text} (hrefused : Refused argument)
    (hfield : tupleField argument = some (name, type)) (h : transportTypeExpression type = .ok t) :
    transportElement argument = .ok (name ++ str " " ++ t) := by
  obtain ⟨e, he, hkind⟩ := hrefused
  rw [transportElement, transport_of_error he]
  dsimp only
  rw [if_neg (not_not.mpr hkind), hfield]
  dsimp only
  rw [h, ok_bind]
  rfl

theorem transport_simple {name : Text} (hparse : parseClickHouseType value = .ok ⟨name, []⟩)
    (hsimple : name ∈ simpleTypes) (hplain : name ∉ unsupportedSimple) :
    transportTypeExpression value = .ok (simpleTransport name) := by
  rw [transport_of_parse (valid_of_supported hparse (.simple hsimple hplain)) hparse, if_pos hsimple]

theorem transport_nested {name : Text} {arguments ts : List Text} (hvalid : Valid value)
    (hparse : parseClickHouseType value = .ok ⟨name, arguments⟩)
    (hname : name ∈ wrapperTypes ∨ name = str "Map")
    (h : arguments.mapM transportTypeExpression = .ok ts) :
    transportTypeExpression value = .ok (name ++ str "(" ++ Text.join (str ", ") ts ++ str ")") := by
  have hnot : name ∉ simpleTypes := by
    rcases hname with hwrapper | hmap
    · exact (wrapperTypes_names _ hwrapper).1
    · rw [hmap]
      decide
  rw [transport_of_parse hvalid hparse, if_neg hnot, if_pos hname, h, ok_bind]

theorem transport_tuple {arguments ts : List Text} (hvalid : Valid value)
    (hparse : parseClickHouseType value = .ok ⟨str "Tuple", arguments⟩)
    (h : arguments.mapM transportElement = .ok ts) :
    transportTypeExpression value = .ok (str "Tuple(" ++ Text.join (str ", ") ts ++ str ")") := by
  rw [transport_of_parse hvalid hparse, if_neg (by decide), if_neg (by decide), if_pos rfl, h,
    ok_bind]

/-- What the rewriter does with the name of a leaf. -/
theorem transport_leaf {name : Text} {arguments : List Text} (hvalid : Valid value)
    (hparse : parseClickHouseType value = .ok ⟨name, arguments⟩) (hname : name ∈ leafNames) :
    transportTypeExpression value =
      if name = str "DateTime" then transportDateTime arguments
      else if name ∈ textTransportTypes then .ok (str "String")
      else .ok (Text.strip value) := by
  obtain ⟨hsimple, hwrapper, hmap, htuple, -⟩ := leafNames_apart name hname
  rw [transport_of_parse hvalid hparse, if_neg hsimple, if_neg fun h => h.elim hwrapper hmap,
    if_neg htuple]

/-- A verbatim type is a leaf that the rewriter does not name. -/
theorem Verbatim.names (h : Verbatim parsed) :
    parsed.name ∈ leafNames ∧ parsed.name ≠ str "DateTime" ∧
      parsed.name ∉ textTransportTypes := by
  have hnames : ∀ name ∈ [str "FixedString", str "Decimal", str "DateTime64"],
      name ∈ leafNames ∧ name ≠ str "DateTime" ∧ name ∉ textTransportTypes := by decide
  cases h with
  | fixedString _ _ _ => exact hnames _ (by simp)
  | decimalScale hlimit _ _ _ =>
    obtain ⟨-, hdateTime, htext, -⟩ := decimalScaleLimits_names _ hlimit
    exact ⟨mem_leafNames hlimit, hdateTime, htext⟩
  | decimal _ _ _ _ _ _ _ => exact hnames _ (by simp)
  | dateTime64 _ _ _ _ => exact hnames _ (by simp)

theorem transport_verbatim (hparse : parseClickHouseType value = .ok parsed)
    (h : Verbatim parsed) : transportTypeExpression value = .ok (Text.strip value) := by
  obtain ⟨name, arguments⟩ := parsed
  obtain ⟨hleaf, hdateTime, htext⟩ := h.names
  rw [transport_leaf (valid_of_verbatim hparse h) hparse hleaf, if_neg hdateTime, if_neg htext]

/-- `DateTime64(0)`, with the zone of the type if it has one. -/
def dateTimeTransport : Option Text → Text
  | none => str "DateTime64(0)"
  | some timezone => str "DateTime64(0, " ++ timezone ++ str ")"

theorem transport_dateTime {zone : Option Text}
    (hparse : parseClickHouseType value = .ok ⟨str "DateTime", zone.toList⟩)
    (hzone : ∀ timezone ∈ zone, isTimeZone timezone = true) :
    transportTypeExpression value = .ok (dateTimeTransport zone) := by
  rw [transport_leaf (valid_of_supported hparse (.dateTime hzone)) hparse (by decide), if_pos rfl]
  cases zone with
  | none => rfl
  | some timezone =>
    show transportDateTime [timezone] = _
    rw [transportDateTime, if_pos (hzone timezone rfl)]
    rfl

theorem transport_enum {name : Text} {arguments : List Text}
    (hparse : parseClickHouseType value = .ok ⟨name, arguments⟩)
    (hname : name = str "Enum8" ∨ name = str "Enum16") (hne : arguments ≠ []) :
    transportTypeExpression value = .ok (str "String") := by
  obtain ⟨hleaf, htext, hdateTime⟩ := enum_names hname
  rw [transport_leaf (valid_of_supported hparse (.enum hname hne)) hparse hleaf, if_neg hdateTime,
    if_pos htext]

end ClickHouse
end DaftOlap
