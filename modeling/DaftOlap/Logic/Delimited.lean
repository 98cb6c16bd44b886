/-
Quotations, brackets and separators.

Text over an alphabet with quotation marks, one kind of bracket and a separator.
Inside a quotation an escape protects the next character; brackets and separators
count only outside of quotations.  A text is closed when reading it ends where it
began and never closes a bracket that it did not open, nor meets a separator outside
of all brackets.  Closed texts are what a list of arguments can be cut into.
-/
import Mathlib.Algebra.GroupWithZero.Nat
import Mathlib.Algebra.Order.BigOperators.Group.Multiset
import Mathlib.Algebra.Order.Group.Multiset
import Mathlib.Data.List.Basic

namespace DaftOlap
namespace Logic

structure Delimiters (α : Type) where
  quotes : List α
  escape : α
  opening : α
  closing : α
  separator : α
  distinct : (escape :: opening :: closing :: separator :: quotes).Nodup

namespace Delimiters

variable {α : Type} {D : Delimiters α}

/-- Outside of quotations, or inside one. -/
inductive Place (D : Delimiters α)
  | outside
  | inside (quote : {q // q ∈ D.quotes}) (escaped : Bool)

structure Position (D : Delimiters α) where
  depth : Nat
  place : Place D

def start (D : Delimiters α) : Position D := ⟨0, .outside⟩

/-- Not a quotation mark, a bracket or a separator. -/
def Plain (D : Delimiters α) (c : α) : Prop :=
  c ∉ D.quotes ∧ c ≠ D.opening ∧ c ≠ D.closing ∧ c ≠ D.separator

/-! ## The delimiters are distinct -/

theorem opening_not_quote (D : Delimiters α) : D.opening ∉ D.quotes := by
  have := D.distinct
  simp only [List.nodup_cons, List.mem_cons, not_or] at this
  exact this.2.1.2.2

theorem closing_not_quote (D : Delimiters α) : D.closing ∉ D.quotes := by
  have := D.distinct
  simp only [List.nodup_cons, List.mem_cons, not_or] at this
  exact this.2.2.1.2

theorem closing_ne_opening (D : Delimiters α) : D.closing ≠ D.opening := by
  have := D.distinct
  simp only [List.nodup_cons, List.mem_cons, not_or] at this
  exact Ne.symm this.2.1.1

theorem separator_not_quote (D : Delimiters α) : D.separator ∉ D.quotes := by
  have := D.distinct
  simp only [List.nodup_cons, List.mem_cons, not_or] at this
  exact this.2.2.2.1

theorem separator_not_bracket (D : Delimiters α) :
    D.separator ≠ D.opening ∧ D.separator ≠ D.closing := by
  have := D.distinct
  simp only [List.nodup_cons, List.mem_cons, not_or] at this
  exact ⟨Ne.symm this.2.1.2.1, Ne.symm this.2.2.1.1⟩

theorem escape_not_quote (D : Delimiters α) : D.escape ∉ D.quotes := by
  have := D.distinct
  simp only [List.nodup_cons, List.mem_cons, not_or] at this
  exact this.1.2.2.2

/-! ## Reading -/

variable [DecidableEq α]

/-- Read one character; none where a bracket would close that was never opened, and
at a separator outside of all brackets. -/
def advance (p : Position D) (c : α) : Option (Position D) :=
  match p.place with
  | .inside quote escaped =>
    if escaped then some { p with place := .inside quote false }
    else if c = D.escape then some { p with place := .inside quote true }
    else if c = quote.val then some { p with place := .outside }
    else some p
  | .outside =>
    if h : c ∈ D.quotes then some { p with place := .inside ⟨c, h⟩ false }
    else if c = D.opening then some { p with depth := p.depth + 1 }
    else if c = D.closing then
      if p.depth = 0 then none else some { p with depth := p.depth - 1 }
    else if c = D.separator ∧ p.depth = 0 then none
    else some p

def scan (p : Position D) : List α → Option (Position D)
  | [] => some p
  | c :: t => (advance p c).bind fun q => scan q t

def Closed (D : Delimiters α) (t : List α) : Prop := scan D.start t = some D.start

/-- What a quotation in marks `q` can contain: a doubled mark is one quotation after
another, which reads the same. -/
inductive Quotation (D : Delimiters α) (q : α) : List α → Prop
  | nil : Quotation D q []
  | plain {c : α} {t : List α} : c ≠ q → c ≠ D.escape → Quotation D q t → Quotation D q (c :: t)
  | escaped {c : α} {t : List α} : Quotation D q t → Quotation D q (D.escape :: c :: t)
  | doubled {t : List α} : Quotation D q t → Quotation D q (q :: q :: t)

/-! ## One character after another -/

variable {p : Position D} {s t : List α} {c : α}

theorem scan_append (p : Position D) (s t : List α) :
    scan p (s ++ t) = (scan p s).bind fun q => scan q t := by
  induction s generalizing p with
  | nil => rfl
  | cons c s ih =>
    rw [List.cons_append, scan, scan, Option.bind_assoc]
    exact Option.bind_congr fun q _ => ih q

/-- Reading stops only outside of quotations and brackets, at a closing bracket or a
separator. -/
theorem advance_eq_none (h : advance p c = none) :
    p = D.start ∧ (c = D.closing ∨ c = D.separator) := by
  obtain ⟨depth, place⟩ := p
  cases place with
  | inside quote escaped =>
    simp only [advance] at h
    split at h
    · cases h
    · split at h
      · cases h
      · split at h <;> cases h
  | outside =>
    simp only [advance] at h
    split at h
    · cases h
    · split at h
      · cases h
      · split at h
        · next hclosing =>
          split at h
          · next hdepth => exact ⟨by rw [hdepth]; rfl, Or.inl hclosing⟩
          · cases h
        · split at h
          · next hseparator =>
            exact ⟨by rw [hseparator.2]; rfl, Or.inr hseparator.1⟩
          · cases h

theorem advance_plain (hc : D.Plain c) (hp : p.place = .outside) : advance p c = some p := by
  obtain ⟨hquote, hopening, hclosing, hseparator⟩ := hc
  rw [advance, hp]
  simp only
  rw [dif_neg hquote, if_neg hopening, if_neg hclosing, if_neg fun h => hseparator h.1]

theorem scan_plain (ht : ∀ c ∈ t, D.Plain c) (hp : p.place = .outside) : scan p t = some p := by
  induction t with
  | nil => rfl
  | cons c t ih =>
    rw [scan, advance_plain (ht c List.mem_cons_self) hp]
    exact ih fun d hd => ht d (List.mem_cons_of_mem _ hd)

/-- No plain character ends a quotation. -/
theorem advance_plain_inside (hc : D.Plain c) {quote : {q // q ∈ D.quotes}} {escaped : Bool}
    (hp : p.place = .inside quote escaped) :
    ∃ next escaped', advance p c = some next ∧ next.place = .inside quote escaped' := by
  rw [advance, hp]
  simp only
  by_cases hescaped : escaped = true
  · rw [if_pos hescaped]
    exact ⟨_, false, rfl, rfl⟩
  · rw [if_neg hescaped]
    by_cases hescape : c = D.escape
    · rw [if_pos hescape]
      exact ⟨_, true, rfl, rfl⟩
    · have hquote : c ≠ quote.val := fun h => hc.1 (h ▸ quote.property)
      rw [if_neg hescape, if_neg hquote]
      exact ⟨p, escaped, rfl, hp⟩

theorem scan_plain_inside (ht : ∀ c ∈ t, D.Plain c) {quote : {q // q ∈ D.quotes}}
    {escaped : Bool} (hp : p.place = .inside quote escaped) :
    ∃ next escaped', scan p t = some next ∧ next.place = .inside quote escaped' := by
  induction t generalizing p escaped with
  | nil => exact ⟨p, escaped, rfl, hp⟩
  | cons c t ih =>
    obtain ⟨next, escaped', hnext, hplace⟩ := advance_plain_inside (ht c List.mem_cons_self) hp
    rw [scan, hnext]
    exact ih (fun d hd => ht d (List.mem_cons_of_mem _ hd)) hplace

/-! ## Reading inside brackets -/

def Position.raise (p : Position D) (n : Nat) : Position D := { p with depth := p.depth + n }

/-- What can be read can be read inside any number of brackets. -/
theorem advance_raise {next : Position D} (n : Nat) (h : advance p c = some next) :
    advance (p.raise n) c = some (next.raise n) := by
  obtain ⟨depth, place⟩ := p
  cases place with
  | inside quote escaped =>
    show advance (⟨depth + n, .inside quote escaped⟩ : Position D) c =
      some ⟨next.depth + n, next.place⟩
    simp only [advance] at h ⊢
    split at h
    · next hescaped => rw [if_pos hescaped, ← Option.some.inj h]
    · next hescaped =>
      rw [if_neg hescaped]
      split at h
      · next hescape => rw [if_pos hescape, ← Option.some.inj h]
      · next hescape =>
        rw [if_neg hescape]
        split at h
        · next hquote => rw [if_pos hquote, ← Option.some.inj h]
        · next hquote => rw [if_neg hquote, ← Option.some.inj h]
  | outside =>
    show advance (⟨depth + n, .outside⟩ : Position D) c = some ⟨next.depth + n, next.place⟩
    simp only [advance] at h ⊢
    split at h
    · next hquote => rw [dif_pos hquote, ← Option.some.inj h]
    · next hquote =>
      rw [dif_neg hquote]
      split at h
      · next hopening =>
        rw [if_pos hopening, ← Option.some.inj h, Nat.add_right_comm]
      · next hopening =>
        rw [if_neg hopening]
        split at h
        · next hclosing =>
          split at h
          · cases h
          · next hdepth =>
            rw [if_pos hclosing, if_neg (by omega), ← Option.some.inj h,
              Nat.sub_add_comm (by omega)]
        · next hclosing =>
          split at h
          · cases h
          · next hseparator =>
            have hdepth : ¬ (c = D.separator ∧ depth + n = 0) := by
              intro hboth
              exact hseparator ⟨hboth.1, by omega⟩
            rw [if_neg hclosing, if_neg hdepth, ← Option.some.inj h]

theorem scan_raise {next : Position D} (n : Nat) (h : scan p t = some next) :
    scan (p.raise n) t = some (next.raise n) := by
  induction t generalizing p with
  | nil =>
    rw [← Option.some.inj h]
    rfl
  | cons c t ih =>
    obtain ⟨q, hq, h⟩ := Option.bind_eq_some_iff.mp h
    rw [scan, advance_raise n hq]
    exact ih h

namespace Closed

theorem scan_eq (h : D.Closed t) (hp : p.place = .outside) : scan p t = some p := by
  obtain ⟨depth, place⟩ := p
  obtain rfl : place = .outside := hp
  have := scan_raise depth h
  simpa only [Position.raise, start, Nat.zero_add] using this

theorem of_plain (h : ∀ c ∈ t, D.Plain c) : D.Closed t := scan_plain h rfl

theorem append (hs : D.Closed s) (ht : D.Closed t) : D.Closed (s ++ t) := by
  rw [Closed, scan_append, hs.scan_eq rfl]
  exact ht.scan_eq rfl

/-- Plain characters around a closed text do not count. -/
theorem of_pad {before after : List α} (hbefore : ∀ c ∈ before, D.Plain c)
    (hafter : ∀ c ∈ after, D.Plain c) (h : D.Closed (before ++ t ++ after)) : D.Closed t := by
  rw [Closed, List.append_assoc, scan_append, scan_plain hbefore rfl, Option.bind_some,
    scan_append] at h
  obtain ⟨q, hq, hrest⟩ := Option.bind_eq_some_iff.mp h
  rw [Closed, hq]
  cases hplace : q.place with
  | outside => rwa [scan_plain hafter hplace] at hrest
  | inside quote escaped =>
    obtain ⟨next, escaped', hnext, hinside⟩ := scan_plain_inside hafter hplace
    rw [hnext] at hrest
    rw [Option.some.inj hrest] at hinside
    cases hinside

/-- Inside brackets closed texts can be listed. -/
theorem scan_intercalate {pieces : List (List α)} (h : ∀ piece ∈ pieces, D.Closed piece)
    (hp : p.place = .outside) (hdepth : p.depth ≠ 0) :
    scan p ([D.separator].intercalate pieces) = some p := by
  induction pieces with
  | nil => rfl
  | cons piece rest ih =>
    have hpiece := (h piece List.mem_cons_self).scan_eq hp
    have hrest := ih fun other hother => h other (List.mem_cons_of_mem _ hother)
    have hseparator : advance p D.separator = some p := by
      rw [advance, hp]
      simp only
      rw [dif_neg D.separator_not_quote, if_neg D.separator_not_bracket.1,
        if_neg D.separator_not_bracket.2, if_neg fun h => hdepth h.2]
    cases rest with
    | nil => rwa [List.intercalate_singleton]
    | cons next rest =>
      rw [List.intercalate_cons_cons, scan_append, scan_append, hpiece, Option.bind_some, scan,
        hseparator]
      exact hrest

/-- A bracketed list of closed texts is closed. -/
theorem brackets {pieces : List (List α)} (h : ∀ piece ∈ pieces, D.Closed piece) :
    D.Closed (D.opening :: ([D.separator].intercalate pieces ++ [D.closing])) := by
  have hopening : advance D.start D.opening = some ⟨1, .outside⟩ := by
    rw [advance, start]
    simp only
    rw [dif_neg D.opening_not_quote, if_pos trivial]
  have hclosing : advance (⟨1, .outside⟩ : Position D) D.closing = some D.start := by
    rw [advance]
    simp only
    rw [dif_neg D.closing_not_quote, if_neg D.closing_ne_opening, if_pos trivial,
      if_neg Nat.one_ne_zero]
    rfl
  rw [Closed, scan, hopening, Option.bind_some, scan_append,
    scan_intercalate h rfl Nat.one_ne_zero, Option.bind_some, scan, hclosing]
  rfl

end Closed

/-- A quotation is closed. -/
theorem Quotation.closed {q : α} (hq : q ∈ D.quotes) (h : Quotation D q t) :
    D.Closed (q :: (t ++ [q])) := by
  have hopen : advance D.start q = some ⟨0, .inside ⟨q, hq⟩ false⟩ := by
    rw [advance, start]
    simp only
    rw [dif_pos hq]
  have hclose : advance (⟨0, .inside ⟨q, hq⟩ false⟩ : Position D) q = some D.start := by
    have hescape : q ≠ D.escape := fun h => D.escape_not_quote (h ▸ hq)
    rw [advance]
    simp only
    rw [if_neg Bool.false_ne_true, if_neg hescape, if_pos trivial]
    rfl
  rw [Closed, scan, hopen, Option.bind_some]
  clear hopen
  induction h with
  | nil =>
    rw [List.nil_append, scan, hclose]
    rfl
  | @plain c t hmark hescape _ ih =>
    rw [List.cons_append, scan, advance]
    simp only
    rw [if_neg Bool.false_ne_true, if_neg hescape, if_neg hmark]
    exact ih
  | @escaped c t _ ih =>
    rw [List.cons_append, scan, advance]
    simp only
    rw [if_neg Bool.false_ne_true, if_pos trivial]
    exact ih
  | @doubled t _ ih =>
    rw [List.cons_append, scan, hclose, Option.bind_some, List.cons_append, scan, advance, start]
    simp only
    rw [dif_pos hq]
    exact ih

end Delimiters
end Logic
end DaftOlap
