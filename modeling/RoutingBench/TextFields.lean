import Mathlib.Data.List.DropRight
import Mathlib.Data.List.Infix
set_option autoImplicit false

/-!
Fields of a text: what stands between separators, and what is left of it without the padding
around it.
-/

namespace TextFields

variable {α : Type*} {sep a : α} {field l : List α} {fields : List (List α)}

theorem infix_intercalate (h : field ∈ fields) : field <:+: [sep].intercalate fields := by
  induction fields with
  | nil => contradiction
  | cons first rest ih =>
    cases rest with
    | nil =>
      obtain rfl := List.mem_singleton.mp h
      rw [List.intercalate_singleton]
    | cons next rest =>
      rw [List.intercalate_cons_cons,List.append_assoc]
      rcases List.mem_cons.mp h with rfl | hmem
      · exact List.infix_append' [] field _
      · exact List.infix_append_of_infix_right (List.infix_append_of_infix_right (ih hmem))

theorem mem_intercalate (h : a ∈ [sep].intercalate fields) :
    a = sep ∨ ∃ field ∈ fields, a ∈ field := by
  induction fields with
  | nil => contradiction
  | cons first rest ih =>
    cases rest with
    | nil => exact .inr ⟨first,List.mem_cons_self,by simpa using h⟩
    | cons next rest =>
      rw [List.intercalate_cons_cons,List.mem_append,List.mem_append,List.mem_singleton] at h
      rcases h with (hfirst | hsep) | hrest
      · exact .inr ⟨first,List.mem_cons_self,hfirst⟩
      · exact .inl hsep
      · exact (ih hrest).imp_right fun ⟨field,hfield,ha⟩ =>
          ⟨field,List.mem_cons_of_mem first hfield,ha⟩

theorem flatMap_cons (hne : fields ≠ []) :
    (fields.flatMap fun field => sep :: field) = sep :: [sep].intercalate fields := by
  induction fields with
  | nil => contradiction
  | cons first rest ih =>
    cases rest with
    | nil => simp
    | cons next rest =>
      rw [List.flatMap_cons,ih (List.cons_ne_nil next rest),List.intercalate_cons_cons,
        List.cons_append,List.append_assoc,List.singleton_append]

theorem head?_intercalate (hne : fields ≠ []) (h : ∀ field ∈ fields, field.head? = some a) :
    ([sep].intercalate fields).head? = some a := by
  cases fields with
  | nil => contradiction
  | cons first rest =>
    have hfirst := h first List.mem_cons_self
    cases rest with
    | nil => rw [List.intercalate_singleton,hfirst]
    | cons next rest =>
      rw [List.intercalate_cons_cons,List.head?_append,List.head?_append,hfirst]
      rfl

theorem getLast?_intercalate (hne : fields ≠ [])
    (h : ∀ field ∈ fields, field.getLast? = some a) :
    ([sep].intercalate fields).getLast? = some a := by
  induction fields with
  | nil => contradiction
  | cons first rest ih =>
    obtain ⟨hfirst,hrest⟩ := List.forall_mem_cons.mp h
    cases rest with
    | nil => rw [List.intercalate_singleton,hfirst]
    | cons next rest =>
      rw [List.intercalate_cons_cons,List.getLast?_append,ih (List.cons_ne_nil next rest) hrest]
      rfl

variable [DecidableEq α]

theorem infix_of_mem_splitOn (h : field ∈ l.splitOn sep) : field <:+: l := by
  have htext : [sep].intercalate (l.splitOn sep) = l := List.intercalate_splitOn sep
  rw [← htext]
  exact infix_intercalate h

section Trim

variable {space : α → Bool} {pad r before after : List α} {b : α}

def trim (space : α → Bool) (l : List α) : List α := (l.dropWhile space).rdropWhile space

omit [DecidableEq α]

theorem trim_append_left (h : ∀ a ∈ pad, space a = true) :
    trim space (pad ++ l) = trim space l := by
  rw [trim,List.dropWhile_append_of_pos h,trim]

theorem rdropWhile_append_of_pos (h : ∀ a ∈ pad, space a = true) :
    (l ++ pad).rdropWhile space = l.rdropWhile space := by
  rw [List.rdropWhile,List.reverse_append,
    List.dropWhile_append_of_pos fun a ha => h a (List.mem_reverse.mp ha),List.rdropWhile]

theorem trim_append_right (h : ∀ a ∈ pad, space a = true) :
    trim space (l ++ pad) = trim space l := by
  rw [trim,List.dropWhile_append]
  split
  next hempty =>
    have hl : l.dropWhile space = [] := List.isEmpty_iff.mp hempty
    rw [List.dropWhile_eq_nil_iff.mpr h,trim,hl]
  next => rw [rdropWhile_append_of_pos h,trim]

theorem dropWhile_eq_self : l.dropWhile space = l ↔ ∀ a ∈ l.head?, space a = false := by
  cases l with
  | nil => simp
  | cons a l => simp [List.dropWhile_eq_self_iff]

theorem rdropWhile_eq_self : l.rdropWhile space = l ↔ ∀ a ∈ l.getLast?, space a = false := by
  rw [List.rdropWhile_eq_self_iff]
  constructor
  · intro h a ha
    obtain ⟨hne,rfl⟩ := List.mem_getLast?_eq_getLast ha
    exact Bool.eq_false_iff.mpr (h hne)
  · intro h hne
    rw [h _ (List.getLast_mem_getLast? hne)]
    exact Bool.false_ne_true

theorem trim_eq_self : trim space l = l ↔
    (∀ a ∈ l.head?, space a = false) ∧ ∀ a ∈ l.getLast?, space a = false := by
  rw [← dropWhile_eq_self,← rdropWhile_eq_self]
  constructor
  · intro h
    have hlength : l.length ≤ (l.dropWhile space).length := by
      have hprefix := (List.rdropWhile_prefix space (l.dropWhile space)).length_le
      rwa [← trim,h] at hprefix
    have hdrop : l.dropWhile space = l :=
      (List.dropWhile_suffix space).eq_of_length_le hlength
    rw [trim,hdrop] at h
    exact ⟨hdrop,h⟩
  · rintro ⟨hdrop,hrdrop⟩
    rw [trim,hdrop,hrdrop]

/-- Two trimmed texts around what is no padding. -/
theorem trim_append_cons (hl : trim space l = l) (hsep : space sep = false)
    (hr : trim space r = r) : trim space (l ++ sep :: r) = l ++ sep :: r := by
  rw [trim_eq_self] at hl hr ⊢
  constructor
  · cases l with
    | nil => simpa using hsep
    | cons a l => simpa using hl.1
  · cases hlast : r.getLast? with
    | none =>
      obtain rfl := List.getLast?_eq_none_iff.mp hlast
      simpa using hsep
    | some b => simpa [List.getLast?_append,List.getLast?_cons,hlast] using hr.2 b hlast

/-- What is written around a text keeps it from being trimmed. -/
theorem trim_between (hhead : before.head? = some a) (ha : space a = false)
    (hlast : after.getLast? = some b) (hb : space b = false) :
    trim space (before ++ l ++ after) = before ++ l ++ after := by
  refine trim_eq_self.mpr ⟨?_,?_⟩
  · simpa [List.head?_append,hhead] using ha
  · simpa [List.getLast?_append,hlast] using hb

end Trim

end TextFields
