/-
What `%` makes of a format, part by part.

A part that leaves the reader outside every specifier is formatted on its own: the
values it consumes are the first ones, and the rest of the format sees the others.
A template whose literal texts are such parts is formatted exactly when each of its
texts is one without values, since its holes consume all of them.
-/
import DaftOlap.Python.Except
import DaftOlap.Python.Template

namespace DaftOlap
namespace Python

/-! ## The reader over the first part of a format -/

/-- Run the reader over the first part of a format: the text it yields, its position
and what is left of the values. -/
def formatPart (u : UnicodeData) : FormatState → FormatArgs → Text →
    Except FormatError (Text × FormatState × FormatArgs)
  | state, args, [] => .ok ([], state, args)
  | state, args, c :: rest => do
    match ← formatStep u state args c with
    | .move state' args' => formatPart u state' args' rest
    | .emit t args' => do
      let (out, last) ← formatPart u .literal args' rest
      .ok (t ++ out, last)

variable {u : UnicodeData}

/-- A run is the reader over the whole format, which must end outside every specifier. -/
theorem formatRun_eq_ok_iff {state : FormatState} {args : FormatArgs} {fmt out : Text} :
    formatRun u state args fmt = .ok out ↔
      ∃ last, formatPart u state args fmt = .ok (out, .literal, last) ∧ last.exhausted = true := by
  induction fmt generalizing state args out with
  | nil =>
    rw [formatPart]
    constructor
    · intro h
      obtain ⟨rfl, hargs, rfl⟩ := formatRun_nil h
      exact ⟨args, rfl, hargs⟩
    · rintro ⟨last, h, hargs⟩
      cases h
      exact if_pos hargs
  | cons c rest ih =>
    rw [formatPart]
    cases hstep : formatStep u state args c with
    | error e =>
      refine iff_of_false (fun h => ?_) (by rintro ⟨_, h, -⟩; cases h)
      rcases formatRun_cons h with ⟨_, _, hmove, -⟩ | ⟨_, _, _, hemit, -⟩
      · cases hstep.symm.trans hmove
      · cases hstep.symm.trans hemit
    | ok r =>
      cases r with
      | move state' args' =>
        rw [ok_bind, ← ih]
        cases state <;> simp [formatRun, hstep, bind, Except.bind]
      | emit t args' =>
        have hrun : formatRun u state args (c :: rest) =
            (formatRun u .literal args' rest >>= fun out => .ok (t ++ out)) := by
          cases state <;> simp [formatRun, hstep, bind, Except.bind]
        rw [hrun, ok_bind]
        simp only [bind_eq_ok, ih]
        constructor
        · rintro ⟨out', ⟨last, hpart, hargs⟩, hout⟩
          exact ⟨last, ⟨_, hpart, by rw [← Except.ok.inj hout]⟩, hargs⟩
        · rintro ⟨last, ⟨⟨out', state', last'⟩, hpart, hout⟩, hargs⟩
          cases hout
          exact ⟨out', ⟨_, hpart, hargs⟩, rfl⟩

theorem formatPart_append (state : FormatState) (args : FormatArgs) (s t : Text) :
    formatPart u state args (s ++ t) = (do
      let (out, state', args') ← formatPart u state args s
      let (out', last) ← formatPart u state' args' t
      .ok (out ++ out', last)) := by
  induction s generalizing state args with
  | nil =>
    rw [List.nil_append, formatPart, ok_bind]
    cases hpart : formatPart u state args t <;> simp [hpart]
  | cons c s ih =>
    rw [List.cons_append, formatPart, formatPart]
    cases formatStep u state args c with
    | error e => rfl
    | ok r =>
      cases r with
      | move state' args' =>
        simp only [ok_bind]
        exact ih state' args'
      | emit text args' =>
        simp only [ok_bind, ih, bind_assoc, List.append_assoc]

/-! ## Parts that consume nothing -/

/-- The position inside a mapping key, which a tuple of values never leads to. -/
def FormatState.IsKey : FormatState → Prop
  | .key _ _ => True
  | _ => False

/-- The values that are left after a step. -/
def FormatStep.args : FormatStep → FormatArgs
  | .move _ args => args
  | .emit _ args => args

/-- The step with other values. -/
def FormatStep.withArgs (args : FormatArgs) : FormatStep → FormatStep
  | .move state _ => .move state args
  | .emit t _ => .emit t args

/-- What a step does with a tuple: it goes to a position that is not a mapping key, and
either it consumes the first value or it does the same whatever the values are. -/
def Steps (step : FormatArgs → Except FormatError FormatStep) : Prop :=
  ∀ values r, step (.positional values) = .ok r →
    (∀ state args, r = .move state args → ¬ state.IsKey) ∧
      ((∃ v rest, values = v :: rest ∧ r.args = .positional rest) ∨
        r.args = .positional values ∧
          ∀ others, step (.positional others) = .ok (r.withArgs (.positional others)))

theorem steps_move {state : FormatState} (h : ¬ state.IsKey) :
    Steps fun args => .ok (.move state args) := by
  intro values r hr
  obtain rfl := Except.ok.inj hr
  exact ⟨fun state' args h' => (FormatStep.move.inj h').1 ▸ h, Or.inr ⟨rfl, fun _ => rfl⟩⟩

theorem steps_error {e : FormatError} : Steps fun _ => .error e := fun _ _ h => nomatch h

theorem Steps.ite {p : Prop} [Decidable p] {f g : FormatArgs → Except FormatError FormatStep}
    (hf : Steps f) (hg : Steps g) : Steps fun args => if p then f args else g args := by
  by_cases hp : p
  · simpa only [hp, if_true] using hf
  · simpa only [hp, if_false] using hg

theorem steps_finish (spec : FormatSpec) (c : PyChar) : Steps (spec.finishStep u c) := by
  intro values r h
  unfold FormatSpec.finishStep FormatSpec.finish at h ⊢
  by_cases hc : c = PyChar.scalar '%'
  · simp only [hc, if_true, FormatArgs.settled, ok_bind] at h ⊢
    obtain rfl := Except.ok.inj h
    exact ⟨(fun _ _ h => nomatch h), Or.inr ⟨rfl, fun _ => rfl⟩⟩
  · simp only [hc, if_false] at h
    cases values with
    | nil => cases h
    | cons v rest =>
      obtain ⟨⟨t, args⟩, h, hr⟩ := bind_eq_ok.mp h
      obtain ⟨arg, harg, h⟩ := bind_eq_ok.mp h
      obtain ⟨text, -, h⟩ := bind_eq_ok.mp h
      cases harg
      cases h
      obtain rfl := Except.ok.inj hr
      exact ⟨(fun _ _ h => nomatch h), Or.inl ⟨v, rest, rfl, rfl⟩⟩

theorem steps_afterPrecision (spec : FormatSpec) (c : PyChar) :
    Steps (spec.afterPrecision u c) := (steps_move id).ite (steps_finish spec c)

theorem steps_afterWidth (spec : FormatSpec) (c : PyChar) : Steps (spec.afterWidth u c) :=
  (steps_move id).ite (steps_afterPrecision spec c)

theorem steps_afterFlags (spec : FormatSpec) (c : PyChar) : Steps (spec.afterFlags u c) :=
  (steps_move id).ite (steps_error.ite ((steps_move id).ite (steps_afterWidth spec c)))

/-- One step of the reader over a format for a tuple. -/
theorem steps_formatStep {state : FormatState} (h : ¬ state.IsKey) (c : PyChar) :
    Steps fun args => formatStep u state args c := by
  have hemit : Steps fun args => .ok (.emit [c] args) := fun values r hr => by
    obtain rfl := Except.ok.inj hr
    exact ⟨(fun _ _ h => nomatch h), Or.inr ⟨rfl, fun _ => rfl⟩⟩
  cases state with
  | literal => exact (steps_move id).ite hemit
  | percent =>
    refine hemit.ite (Steps.ite ?_ (steps_afterFlags {} c))
    intro values r hr
    cases hr
  | key depth read => exact absurd trivial h
  | flags spec => exact steps_afterFlags spec c
  | width spec => exact (steps_move id).ite (steps_afterWidth spec c)
  | point spec => exact steps_error.ite ((steps_move id).ite (steps_afterPrecision _ c))
  | precision spec => exact (steps_move id).ite (steps_afterPrecision spec c)
  | lengthModifier spec => exact steps_finish spec c

/-- The reader over a part, with a tuple: what is left of the values is a tail of them, and a
part that consumes nothing does the same whatever they are. -/
theorem formatPart_positional {state state' : FormatState} {values : List Text} {t out : Text}
    {args : FormatArgs} (hstate : ¬ state.IsKey)
    (h : formatPart u state (.positional values) t = .ok (out, state', args)) :
    ¬ state'.IsKey ∧ ∃ rest, args = .positional rest ∧ rest.length ≤ values.length ∧
      (rest.length = values.length → ∀ others,
        formatPart u state (.positional others) t = .ok (out, state', .positional others)) := by
  induction t generalizing state values out with
  | nil =>
    cases h
    exact ⟨hstate, values, rfl, le_rfl, fun _ _ => rfl⟩
  | cons c t ih =>
    rw [formatPart] at h
    obtain ⟨r, hr, h⟩ := bind_eq_ok.mp h
    obtain ⟨hmove, heffect⟩ := steps_formatStep hstate c values r hr
    cases r with
    | move state₁ args₁ =>
      rcases heffect with ⟨v, rest₁, rfl, rfl⟩ | ⟨rfl, hframe⟩
      · obtain ⟨hlast, rest, hargs, hle, -⟩ := ih (hmove _ _ rfl) h
        refine ⟨hlast, rest, hargs, hle.trans (Nat.le_succ _), fun hlength => ?_⟩
        rw [List.length_cons] at hlength
        omega
      · obtain ⟨hlast, rest, hargs, hle, hsame⟩ := ih (hmove _ _ rfl) h
        refine ⟨hlast, rest, hargs, hle, fun hlength others => ?_⟩
        have hstep : formatStep u state (.positional others) c = _ := hframe others
        rw [formatPart, hstep]
        exact hsame hlength others
    | emit text args₁ =>
      obtain ⟨⟨out', last⟩, hpart, hout⟩ := bind_eq_ok.mp h
      cases hout
      rcases heffect with ⟨v, rest₁, rfl, rfl⟩ | ⟨rfl, hframe⟩
      · obtain ⟨hlast, rest, hargs, hle, -⟩ := ih id hpart
        refine ⟨hlast, rest, hargs, hle.trans (Nat.le_succ _), fun hlength => ?_⟩
        rw [List.length_cons] at hlength
        omega
      · obtain ⟨hlast, rest, hargs, hle, hsame⟩ := ih id hpart
        refine ⟨hlast, rest, hargs, hle, fun hlength others => ?_⟩
        have hstep : formatStep u state (.positional others) c = _ := hframe others
        rw [formatPart, hstep]
        show (formatPart u .literal (.positional others) t >>= _) = _
        rw [hsame hlength others]
        rfl

/-! ## Parts that close -/

/-- A part after which the reader is outside every specifier, if it comes through. -/
def Closes (u : UnicodeData) (t : Text) : Prop :=
  ∀ values out state args,
    formatPart u .literal (.positional values) t = .ok (out, state, args) → state = .literal

theorem Closes.append {s t : Text} (hs : Closes u s) (ht : Closes u t) : Closes u (s ++ t) := by
  intro values out state args h
  rw [formatPart_append] at h
  obtain ⟨⟨out₁, state₁, args₁⟩, hpart, h⟩ := bind_eq_ok.mp h
  obtain ⟨⟨out₂, state₂, args₂⟩, hpart₂, h⟩ := bind_eq_ok.mp h
  cases h
  obtain rfl := hs _ _ _ _ hpart
  obtain ⟨-, rest, rfl, -⟩ := formatPart_positional id hpart
  exact ht _ _ _ _ hpart₂

theorem formatPart_text {args : FormatArgs} {t : Text} (h : PyChar.scalar '%' ∉ t) :
    formatPart u .literal args t = .ok (t, .literal, args) := by
  induction t with
  | nil => rfl
  | cons c t ih =>
    rw [List.mem_cons, not_or] at h
    rw [formatPart, formatStep, if_neg (Ne.symm h.1)]
    show (formatPart u .literal args t >>= _) = _
    rw [ih h.2]
    rfl

theorem closes_text {t : Text} (h : PyChar.scalar '%' ∉ t) : Closes u t := by
  intro values out state args hpart
  rw [formatPart_text h] at hpart
  cases hpart
  rfl

/-- No specifier has a backtick. -/
theorem formatStep_backtick {state : FormatState} (hkey : ¬ state.IsKey) (hliteral : state ≠ .literal)
    (values : List Text) :
    ∃ e, formatStep u state (.positional values) (PyChar.scalar '`') = .error e := by
  cases state with
  | literal => exact absurd rfl hliteral
  | key depth read => exact absurd trivial hkey
  | _ => cases values <;> exact ⟨_, rfl⟩

/-- What ends with a backtick closes. -/
theorem closes_backtick (t : Text) : Closes u (t ++ str "`") := by
  intro values out state args h
  rw [formatPart_append] at h
  obtain ⟨⟨out₁, state₁, args₁⟩, hpart, h⟩ := bind_eq_ok.mp h
  obtain ⟨⟨out₂, state₂, args₂⟩, hlast, h⟩ := bind_eq_ok.mp h
  cases h
  obtain ⟨hkey, rest, rfl, -⟩ := formatPart_positional id hpart
  by_cases hliteral : state₁ = .literal
  · subst hliteral
    cases hlast
    rfl
  · obtain ⟨e, he⟩ := formatStep_backtick hkey hliteral rest
    have hlast : (formatStep u state₁ (.positional rest) (PyChar.scalar '`') >>= _) = _ := hlast
    rw [he] at hlast
    cases hlast

/-- What `%` makes of a part on its own, without values. -/
def formatAlone (u : UnicodeData) (t : Text) : Option Text :=
  (percentFormat u t []).toOption

theorem formatAlone_eq_some_iff {t out : Text} :
    formatAlone u t = some out ↔
      formatPart u .literal (.positional []) t = .ok (out, .literal, .positional []) := by
  have hoption : formatAlone u t = some out ↔ percentFormat u t [] = .ok out := by
    unfold formatAlone
    cases percentFormat u t [] <;> simp [Except.toOption]
  rw [hoption, percentFormat, formatRun_eq_ok_iff]
  constructor
  · intro h
    obtain ⟨last, hpart, hargs⟩ := h
    obtain ⟨-, rest, rfl, -⟩ := formatPart_positional id hpart
    obtain rfl : rest = [] := by simpa [FormatArgs.exhausted] using hargs
    exact hpart
  · intro h
    exact ⟨_, h, rfl⟩

/-- A part that is formatted without values is so in front of any. -/
theorem formatPart_of_alone {t out : Text} (h : formatAlone u t = some out) (values : List Text) :
    formatPart u .literal (.positional values) t = .ok (out, .literal, .positional values) := by
  obtain ⟨-, rest, hrest, -, hsame⟩ := formatPart_positional id (formatAlone_eq_some_iff.mp h)
  cases hrest
  exact hsame rfl values

theorem formatAlone_text {t : Text} (h : PyChar.scalar '%' ∉ t) : formatAlone u t = some t :=
  formatAlone_eq_some_iff.mpr (formatPart_text h)

theorem formatAlone_append_iff {s t out : Text} (hs : Closes u s) :
    formatAlone u (s ++ t) = some out ↔
      ∃ a b, formatAlone u s = some a ∧ formatAlone u t = some b ∧ out = a ++ b := by
  simp only [formatAlone_eq_some_iff, formatPart_append]
  constructor
  · intro h
    obtain ⟨⟨a, state, args⟩, hfirst, h⟩ := bind_eq_ok.mp h
    obtain ⟨⟨b, state', args'⟩, hsecond, h⟩ := bind_eq_ok.mp h
    cases h
    obtain rfl := hs _ _ _ _ hfirst
    obtain ⟨-, rest, rfl, hlength, -⟩ := formatPart_positional id hfirst
    obtain rfl : rest = [] := List.eq_nil_of_length_eq_zero (Nat.le_zero.mp hlength)
    exact ⟨a, b, hfirst, hsecond, rfl⟩
  · intro h
    obtain ⟨a, b, hfirst, hsecond, rfl⟩ := h
    rw [hfirst, ok_bind, hsecond]
    rfl

theorem isSome_formatAlone_append {s t : Text} (hs : Closes u s) :
    (formatAlone u (s ++ t)).isSome ↔ (formatAlone u s).isSome ∧ (formatAlone u t).isSome := by
  simp only [Option.isSome_iff_exists, formatAlone_append_iff hs]
  constructor
  · rintro ⟨_, a, b, ha, hb, -⟩
    exact ⟨⟨a, ha⟩, ⟨b, hb⟩⟩
  · rintro ⟨⟨a, ha⟩, ⟨b, hb⟩⟩
    exact ⟨_, a, b, ha, hb, rfl⟩

/-- Closed parts with a plain text between them are formatted one by one. -/
theorem closes_join {sep : Text} (hsep : PyChar.scalar '%' ∉ sep) {ts : List Text}
    (h : ∀ t ∈ ts, Closes u t) : Closes u (Text.join sep ts) := by
  induction ts with
  | nil => exact closes_text (by simp [Text.join])
  | cons t ts ih =>
    rw [List.forall_mem_cons] at h
    cases ts with
    | nil => simpa using h.1
    | cons t' ts =>
      rw [Text.join_cons_cons]
      exact (h.1.append (closes_text hsep)).append (ih h.2)

theorem isSome_formatAlone_join {sep : Text} (hsep : PyChar.scalar '%' ∉ sep) {ts : List Text}
    (h : ∀ t ∈ ts, Closes u t) :
    (formatAlone u (Text.join sep ts)).isSome ↔ ∀ t ∈ ts, (formatAlone u t).isSome := by
  induction ts with
  | nil => simp [formatAlone_text, Text.join]
  | cons t ts ih =>
    rw [List.forall_mem_cons] at h
    cases ts with
    | nil => simp
    | cons t' ts =>
      rw [Text.join_cons_cons, isSome_formatAlone_append (h.1.append (closes_text hsep)),
        isSome_formatAlone_append h.1, formatAlone_text hsep, ih h.2, List.forall_mem_cons (a := t)]
      simp

/-! ## Templates -/

section Template

variable {κ : Type}

/-- Literal text is formatted without values. -/
def Piece.Formats (u : UnicodeData) : Piece κ → Prop
  | .text t => (formatAlone u t).isSome
  | _ => True

@[simp] theorem Piece.formats_text {t : Text} :
    (Piece.text t : Piece κ).Formats u ↔ (formatAlone u t).isSome := Iff.rfl

@[simp] theorem Piece.formats_percent : (Piece.percent : Piece κ).Formats u := trivial

@[simp] theorem Piece.formats_hole (k : κ) : (Piece.hole k).Formats u := trivial

theorem Piece.Clean.formats {p : Piece κ} (h : p.Clean) : p.Formats u := by
  cases p with
  | text t => simp [formatAlone_text h]
  | percent => trivial
  | hole k => trivial

namespace Template

/-- What `%` makes of the literal text of a template. -/
def bound (u : UnicodeData) : Template κ → Option (Template κ)
  | [] => some []
  | .text t :: T => do return .text (← formatAlone u t) :: (← bound u T)
  | .percent :: T => do return .percent :: (← bound u T)
  | .hole k :: T => do return .hole k :: (← bound u T)

/-- The literal texts of a template close. -/
def Closed (u : UnicodeData) (T : Template κ) : Prop := ∀ t, .text t ∈ T → Closes u t

theorem closed_cons {p : Piece κ} {T : Template κ} :
    Closed u (p :: T) ↔ (∀ t, p = .text t → Closes u t) ∧ Closed u T := by
  simp only [Closed, List.mem_cons, or_imp, forall_and, eq_comm]

@[simp] theorem closed_nil : Closed u ([] : Template κ) := fun _ h => nomatch h

@[simp] theorem closed_text {t : Text} {T : Template κ} :
    Closed u (.text t :: T) ↔ Closes u t ∧ Closed u T := by
  simp [closed_cons]

@[simp] theorem closed_percent {T : Template κ} : Closed u (.percent :: T) ↔ Closed u T := by
  simp [closed_cons]

@[simp] theorem closed_hole {k : κ} {T : Template κ} : Closed u (.hole k :: T) ↔ Closed u T := by
  simp [closed_cons]

@[simp] theorem closed_append {S T : Template κ} : Closed u (S ++ T) ↔ Closed u S ∧ Closed u T := by
  simp only [Closed, List.mem_append, or_imp, forall_and]

theorem closed_join {sep : Text} (hsep : PyChar.scalar '%' ∉ sep) {Ts : List (Template κ)}
    (h : ∀ T ∈ Ts, Closed u T) : Closed u (join sep Ts) := by
  induction Ts with
  | nil => exact closed_nil
  | cons T Ts ih =>
    rw [List.forall_mem_cons] at h
    cases Ts with
    | nil => simpa [join] using h.1
    | cons T' Ts =>
      rw [join, closed_append, closed_text]
      exact ⟨h.1, closes_text hsep, ih h.2⟩

theorem formats_join {sep : Text} (hsep : PyChar.scalar '%' ∉ sep) {Ts : List (Template κ)} :
    (∀ p ∈ join sep Ts, p.Formats u) ↔ ∀ T ∈ Ts, ∀ p ∈ T, p.Formats u := by
  induction Ts with
  | nil => simp [join]
  | cons T Ts ih =>
    cases Ts with
    | nil => simp [join]
    | cons T' Ts =>
      rw [join, List.forall_mem_append, List.forall_mem_cons, ih, List.forall_mem_cons (a := T)]
      simp [formatAlone_text hsep]

/-- Text without percent signs is bound to itself. -/
theorem bound_of_stray_eq_zero {T : Template κ} (h : T.stray = 0) : T.bound u = some T := by
  induction T with
  | nil => rfl
  | cons p T ih =>
    cases p with
    | text t =>
      obtain ⟨ht, hT⟩ := not_mem_of_stray_eq_zero h
      rw [bound, formatAlone_text ht, ih hT]
      rfl
    | percent =>
      rw [bound, ih (stray_cons_percent ▸ h)]
      rfl
    | hole k =>
      rw [bound, ih (stray_cons_hole ▸ h)]
      rfl

theorem bound_append (S T : Template κ) :
    (S ++ T).bound u = do return (← S.bound u) ++ (← T.bound u) := by
  induction S with
  | nil =>
    rw [List.nil_append, bound]
    cases T.bound u <;> rfl
  | cons p S ih =>
    cases p with
    | text t =>
      rw [List.cons_append, bound, bound, ih]
      cases formatAlone u t <;> cases bound u S <;> cases bound u T <;> rfl
    | percent =>
      rw [List.cons_append, bound, bound, ih]
      cases bound u S <;> cases bound u T <;> rfl
    | hole k =>
      rw [List.cons_append, bound, bound, ih]
      cases bound u S <;> cases bound u T <;> rfl

/-- A template is bound when each of its texts is. -/
theorem isSome_bound_iff {T : Template κ} : (T.bound u).isSome ↔ ∀ p ∈ T, p.Formats u := by
  induction T with
  | nil => simp [bound]
  | cons p T ih =>
    rw [List.forall_mem_cons, ← ih]
    cases p with
    | text t =>
      rw [bound, Piece.formats_text]
      cases formatAlone u t <;> cases bound u T <;> simp
    | percent =>
      rw [bound]
      cases bound u T <;> simp
    | hole k =>
      rw [bound]
      cases bound u T <;> simp

end Template

theorem formatPart_hole (v : Text) (values : List Text) :
    formatPart u .literal (.positional (v :: values)) (str "%s") =
      .ok (v, .literal, .positional values) := by
  have hstep : formatStep u .percent (.positional (v :: values)) (PyChar.scalar 's') =
      .ok (.emit v (.positional values)) :=
    afterFlags_s (.positional (v :: values)) (.text v) rfl
  show formatPart u .literal (.positional (v :: values))
    [PyChar.scalar '%', PyChar.scalar 's'] = _
  rw [formatPart, formatStep, if_pos rfl, ok_bind]
  simp only
  rw [formatPart, hstep]
  simp [formatPart]

/-- Formatting the texts of a template one by one formats the template. -/
theorem formatPart_of_bound {σ : κ → Text} {T T' : Template κ} (h : T.bound u = some T')
    (more : List Text) :
    formatPart u .literal (.positional (T.holes.map σ ++ more)) (T.format fun _ => str "%s") =
      .ok (T'.fill σ, .literal, .positional more) := by
  induction T generalizing T' with
  | nil =>
    obtain rfl := Option.some.inj h
    rfl
  | cons p T ih =>
    rw [Template.format, Template.render_cons, formatPart_append, ← Template.format]
    cases p with
    | text t =>
      rw [Template.bound] at h
      obtain ⟨a, ha, h⟩ := Option.bind_eq_some_iff.mp h
      obtain ⟨S, hS, h⟩ := Option.bind_eq_some_iff.mp h
      obtain rfl := Option.some.inj h
      rw [Piece.render_text, formatPart_of_alone ha, ok_bind, Template.holes_text]
      simp only [ih hS, ok_bind]
      rfl
    | percent =>
      rw [Template.bound] at h
      obtain ⟨S, hS, h⟩ := Option.bind_eq_some_iff.mp h
      obtain rfl := Option.some.inj h
      rw [Piece.render_percent, Template.holes_percent]
      show (formatPart u .literal _ (Template.format _ T) >>= _) = _
      rw [ih hS]
      rfl
    | hole k =>
      rw [Template.bound] at h
      obtain ⟨S, hS, h⟩ := Option.bind_eq_some_iff.mp h
      obtain rfl := Option.some.inj h
      rw [Piece.render_hole, Template.holes_hole, List.map_cons, List.cons_append, formatPart_hole,
        ok_bind]
      simp only [ih hS, ok_bind]
      rfl

/-- A closed template that comes through has consumed a value for each hole at least, and when
it has consumed no others its texts are formatted one by one. -/
theorem bound_of_formatPart {T : Template κ} (hT : T.Closed u) {values : List Text}
    {out : Text} {state : FormatState} {args : FormatArgs}
    (h : formatPart u .literal (.positional values) (T.format fun _ => str "%s") =
      .ok (out, state, args)) :
    state = .literal ∧ ∃ rest, args = .positional rest ∧
      rest.length + T.holes.length ≤ values.length ∧
      (rest.length + T.holes.length = values.length → ∃ T', T.bound u = some T') := by
  induction T generalizing values out with
  | nil =>
    cases h
    exact ⟨rfl, values, rfl, le_rfl, fun _ => ⟨[], rfl⟩⟩
  | cons p T ih =>
    rw [Template.format, Template.render_cons, formatPart_append, ← Template.format] at h
    obtain ⟨hclose, hclosed⟩ := Template.closed_cons.mp hT
    obtain ⟨⟨out₁, state₁, args₁⟩, hfirst, h⟩ := bind_eq_ok.mp h
    obtain ⟨⟨out₂, state₂, args₂⟩, hrest, h⟩ := bind_eq_ok.mp h
    cases h
    cases p with
    | text t =>
      obtain rfl := hclose t rfl _ _ _ _ hfirst
      obtain ⟨-, rest₁, rfl, hle, hsame⟩ := formatPart_positional id hfirst
      obtain ⟨hstate, rest, hargs, hcount, hbound⟩ := ih hclosed hrest
      refine ⟨hstate, rest, hargs, hcount.trans hle, fun hexact => ?_⟩
      rw [Template.holes_text] at hexact
      have halone : formatAlone u t = some out₁ :=
        formatAlone_eq_some_iff.mpr (hsame (by omega) [])
      obtain ⟨S, hS⟩ := hbound (by omega)
      exact ⟨_, by rw [Template.bound, halone, hS]; rfl⟩
    | percent =>
      cases hfirst
      obtain ⟨hstate, rest, hargs, hcount, hbound⟩ := ih hclosed hrest
      refine ⟨hstate, rest, hargs, hcount, fun hexact => ?_⟩
      obtain ⟨S, hS⟩ := hbound hexact
      exact ⟨_, by rw [Template.bound, hS]; rfl⟩
    | hole k =>
      cases values with
      | nil => cases hfirst
      | cons v values =>
        rw [Piece.render_hole, formatPart_hole] at hfirst
        cases hfirst
        obtain ⟨hstate, rest, hargs, hcount, hbound⟩ := ih hclosed hrest
        rw [Template.holes_hole, List.length_cons, List.length_cons]
        refine ⟨hstate, rest, hargs, by omega, fun hexact => ?_⟩
        obtain ⟨S, hS⟩ := hbound (by omega)
        exact ⟨_, by rw [Template.bound, hS]; rfl⟩

/-- Formatting a closed template with a value for each hole formats its literal texts one by
one. -/
theorem percentFormat_closed {σ : κ → Text} {T : Template κ} (hT : T.Closed u) :
    (percentFormat u (T.format fun _ => str "%s") (T.holes.map σ)).toOption =
      (T.bound u).map (Template.fill σ) := by
  have hfill : ∀ T', T.bound u = some T' →
      percentFormat u (T.format fun _ => str "%s") (T.holes.map σ) = .ok (T'.fill σ) := by
    intro T' hbound
    have hpart := formatPart_of_bound (σ := σ) hbound []
    rw [List.append_nil] at hpart
    exact formatRun_eq_ok_iff.mpr ⟨_, hpart, rfl⟩
  cases hbound : T.bound u with
  | some T' =>
    rw [hfill T' hbound]
    rfl
  | none =>
    cases hformat : percentFormat u (T.format fun _ => str "%s") (T.holes.map σ) with
    | error e => rfl
    | ok out =>
      obtain ⟨last, hpart, hlast⟩ := formatRun_eq_ok_iff.mp hformat
      obtain ⟨-, rest, rfl, -, hexact⟩ := bound_of_formatPart hT hpart
      obtain rfl : rest = [] := by simpa [FormatArgs.exhausted] using hlast
      obtain ⟨T', hT'⟩ := hexact (by simp)
      rw [hbound] at hT'
      cases hT'

end Template

end Python
end DaftOlap
