import RoutingBench.Calendar
import Mathlib.Data.List.DropRight
set_option autoImplicit false

/-!
Dates printed as `%Y-%m-%d` and read back by Python's `strptime`: the first reading of a format
counts, and it has to be the whole text.
-/

namespace Calendar

inductive Directive where
  | year
  | month
  | day
  | hour
  | minute
  | second
  | literal (c : Char)
  deriving DecidableEq

/-- A number of so many digits at the beginning of a text, and the rest of it. -/
def number (width : Nat) (cs : List Char) : Option (Nat × List Char) :=
  if (cs.take width).length = width ∧ (cs.take width).all Char.isDigit = true
    then some (Nat.ofDigitChars 10 (cs.take width) 0,cs.drop width) else none

/-- Numbers in a range, of two digits or, if that fails, of one. -/
def upTo (lo hi : Nat) (cs : List Char) : List (Nat × List Char) :=
  ((number 2 cs).filter fun p => lo ≤ p.1 && p.1 ≤ hi).toList ++
    ((number 1 cs).filter fun p => lo ≤ p.1).toList

/-- A digit of a day after a blank. -/
def blankDigit : List Char → List (Nat × List Char)
  | ' ' :: cs => ((number 1 cs).filter fun p => 1 ≤ p.1).toList
  | _ => []

def Directive.readings : Directive → List Char → List (Nat × List Char)
  | .year,cs => (number 4 cs).toList
  | .month,cs => upTo 1 12 cs
  | .day,cs => upTo 1 31 cs ++ blankDigit cs
  | .hour,cs => upTo 0 23 cs
  | .minute,cs => upTo 0 59 cs
  | .second,cs => upTo 0 61 cs
  | .literal c,d :: cs => if c = d then [(0,cs)] else []
  | .literal _,[] => []

/-- The first reading of a format, and what it leaves of the text. -/
def scan : List Directive → List Char → Option (List (Directive × Nat) × List Char)
  | [],cs => some ([],cs)
  | d :: format,cs => (d.readings cs).findSome? fun (n,rest) =>
    (scan format rest).map fun (fields,left) => ((d,n) :: fields,left)

deriving instance DecidableEq for Date

/-- The dates that exist, from the year 1 on. -/
def Date.ofFields (year month day : Nat) : Option Date :=
  if h : month ≤ 12 ∧ day ≤ 31 then
    let date : Date := ⟨year,month,day,h.1,h.2⟩
    if 1 ≤ year ∧ Date.ofDays date.toDays = date then some date else none
  else none

/-- The date of a text in a format; a leap second is read but is no time. -/
def strptimeDate (format : List Directive) (cs : List Char) : Option Date :=
  match scan format cs with
  | some (fields,[]) =>
    if (fields.lookup .second).all (· < 60) then
      Date.ofFields ((fields.lookup .year).getD 1900) ((fields.lookup .month).getD 1)
        ((fields.lookup .day).getD 1)
    else none
  | _ => none

def strip (cs : List Char) : List Char :=
  List.rdropWhile Char.isWhitespace (cs.dropWhile Char.isWhitespace)

/-- `%Y-%m-%d`. -/
def dashed : List Directive := [.year,.literal '-',.month,.literal '-',.day]

/-- What `date` prints in this format. -/
def Date.iso (d : Date) : List Char :=
  yearDigits d.year ++ '-' :: twoDigits d.month ++ '-' :: twoDigits d.day

def Date.FourDigitYear (d : Date) : Prop := 1000 ≤ d.year ∧ d.year ≤ 9999

theorem number_append {width : Nat} {cs : List Char} (hwidth : cs.length = width)
    (hdigits : ∀ c ∈ cs, c.isDigit = true) (rest : List Char) :
    number width (cs ++ rest) = some (Nat.ofDigitChars 10 cs 0,rest) := by
  subst hwidth
  have hall := List.all_eq_true.mpr hdigits
  rw [number,List.take_left,List.drop_left,if_pos ⟨rfl,hall⟩]

theorem number_spec {width n : Nat} {cs rest : List Char} (h : number width cs = some (n,rest)) :
    ∃ ds, cs = ds ++ rest ∧ ds.length = width ∧ ∀ c ∈ ds, c.isDigit = true := by
  unfold number at h
  split at h
  next hnumber =>
    obtain ⟨-,rfl⟩ := Prod.mk.inj (Option.some.inj h)
    exact ⟨cs.take width,(List.take_append_drop width cs).symm,hnumber.1,
      List.all_eq_true.mp hnumber.2⟩
  next => contradiction

theorem twoDigits_spec (n : Nat) (h : n < 100) :
    Nat.ofDigitChars 10 (twoDigits n) 0 = n ∧ ∀ c ∈ twoDigits n, c.isDigit = true := by
  have hten : n / 10 < 10 := by omega
  have hone : n % 10 < 10 := by omega
  constructor
  · rw [twoDigits,Nat.ofDigitChars_cons_digitChar_of_lt_ten hten,
      Nat.ofDigitChars_cons_digitChar_of_lt_ten hone,Nat.ofDigitChars_nil]
    omega
  · simp [twoDigits,Nat.isDigit_digitChar,hten,hone]

theorem number_twoDigits {n : Nat} (h : n < 100) (rest : List Char) :
    number 2 (twoDigits n ++ rest) = some (n,rest) := by
  obtain ⟨hvalue,hdigits⟩ := twoDigits_spec n h
  rw [number_append (show (twoDigits n).length = 2 from rfl) hdigits,hvalue]

theorem upTo_twoDigits {lo hi n : Nat} (hrange : lo ≤ n ∧ n ≤ hi) (hn : n < 100)
    (rest : List Char) : ∃ others, upTo lo hi (twoDigits n ++ rest) = (n,rest) :: others := by
  have hbounds : (lo ≤ n && n ≤ hi) = true := by simp [hrange]
  rw [upTo,number_twoDigits hn,Option.filter_some,if_pos hbounds]
  exact ⟨_,rfl⟩

theorem scan_cons {d : Directive} {format : List Directive} {n : Nat} {cs rest left : List Char}
    {others : List (Nat × List Char)} {fields : List (Directive × Nat)}
    (hreading : d.readings cs = (n,rest) :: others) (hscan : scan format rest = some (fields,left)) :
    scan (d :: format) cs = some ((d,n) :: fields,left) := by
  simp only [scan,hreading,List.findSome?_cons,hscan,Option.map_some]

theorem number_dash {width n : Nat} {cs rest : List Char} (h : number width cs = some (n,rest))
    (hdash : '-' ∈ cs) : '-' ∈ rest := by
  obtain ⟨ds,rfl,-,hdigits⟩ := number_spec h
  rcases List.mem_append.mp hdash with hds | hrest
  · exact absurd (hdigits '-' hds) (by decide)
  · exact hrest

theorem upTo_dash {lo hi n : Nat} {cs rest : List Char} (h : (n,rest) ∈ upTo lo hi cs)
    (hdash : '-' ∈ cs) : '-' ∈ rest := by
  simp only [upTo,List.mem_append,Option.mem_toList,Option.filter_eq_some_iff] at h
  rcases h with ⟨h,-⟩ | ⟨h,-⟩
  · exact number_dash h hdash
  · exact number_dash h hdash

theorem blankDigit_dash {n : Nat} {cs rest : List Char} (h : (n,rest) ∈ blankDigit cs)
    (hdash : '-' ∈ cs) : '-' ∈ rest := by
  unfold blankDigit at h
  split at h
  next cs =>
    simp only [Option.mem_toList,Option.filter_eq_some_iff] at h
    exact number_dash h.1 ((List.mem_cons.mp hdash).resolve_left (by decide))
  next => contradiction

theorem readings_dash {d : Directive} (hd : d ≠ .literal '-') {n : Nat} {cs rest : List Char}
    (h : (n,rest) ∈ d.readings cs) (hdash : '-' ∈ cs) : '-' ∈ rest := by
  cases d with
  | year =>
    simp only [Directive.readings,Option.mem_toList] at h
    exact number_dash h hdash
  | day =>
    rcases List.mem_append.mp h with h | h
    · exact upTo_dash h hdash
    · exact blankDigit_dash h hdash
  | literal c =>
    cases cs with
    | nil => contradiction
    | cons a cs =>
      simp only [Directive.readings] at h
      split at h
      next hc =>
        subst hc
        obtain ⟨-,rfl⟩ := Prod.mk.inj (List.mem_singleton.mp h)
        exact (List.mem_cons.mp hdash).resolve_left fun hc => hd (hc ▸ rfl)
      next => contradiction
  | month => exact upTo_dash h hdash
  | hour => exact upTo_dash h hdash
  | minute => exact upTo_dash h hdash
  | second => exact upTo_dash h hdash

/-- What a format without dashes leaves of a text has its dashes. -/
theorem scan_dash {format : List Directive} (hformat : .literal '-' ∉ format) {cs left : List Char}
    {fields : List (Directive × Nat)} (h : scan format cs = some (fields,left))
    (hdash : '-' ∈ cs) : '-' ∈ left := by
  induction format generalizing cs fields with
  | nil =>
    obtain ⟨-,rfl⟩ := Prod.mk.inj (Option.some.inj h)
    exact hdash
  | cons d format ih =>
    obtain ⟨hd,hformat⟩ := not_or.mp (mt List.mem_cons.mpr hformat)
    obtain ⟨⟨n,rest⟩,hreading,hrest⟩ := List.exists_of_findSome?_eq_some h
    obtain ⟨⟨fields',left'⟩,hscan,heq⟩ := Option.map_eq_some_iff.mp hrest
    obtain ⟨-,rfl⟩ := Prod.mk.inj heq
    exact ih hformat hscan (readings_dash (Ne.symm hd) hreading hdash)

theorem strptimeDate_dash {format : List Directive} (hformat : .literal '-' ∉ format)
    {cs : List Char} (hdash : '-' ∈ cs) : strptimeDate format cs = none := by
  unfold strptimeDate
  split
  next fields hscan => exact absurd (scan_dash hformat hscan hdash) List.not_mem_nil
  next => rfl

section Iso

variable {d : Date}

theorem length_toDigits_eq_four_iff (n : Nat) :
    (Nat.toDigits 10 n).length = 4 ↔ 1000 ≤ n ∧ n ≤ 9999 := by
  have h4 := Nat.length_toDigits_le_iff (n := n) (k := 4) (show 1 < 10 by decide) (by decide)
  have h3 := Nat.length_toDigits_le_iff (n := n) (k := 3) (show 1 < 10 by decide) (by decide)
  omega

theorem isDigit_of_mem_toDigits {n : Nat} {c : Char} (h : c ∈ Nat.toDigits 10 n) :
    c.isDigit = true := Nat.isDigit_of_mem_toDigits (by decide) (by decide) h

/-- Only a year of four digits is read up to its dash. -/
theorem number_yearDigits {y : Int} {tail rest : List Char} {n : Nat}
    (h : number 4 (yearDigits y ++ '-' :: tail) = some (n,'-' :: rest)) : 1000 ≤ y ∧ y ≤ 9999 := by
  obtain ⟨ds,hds,hlength,hdigits⟩ := number_spec h
  cases y with
  | ofNat m =>
    have hsame := congrArg (List.takeWhile Char.isDigit) hds
    rw [yearDigits,List.takeWhile_append_of_pos fun c hc => isDigit_of_mem_toDigits hc,
      List.takeWhile_append_of_pos hdigits] at hsame
    have hyear : Nat.toDigits 10 m = ds := by simpa using hsame
    have hbounds := (length_toDigits_eq_four_iff m).mp (hyear ▸ hlength)
    simp only [Int.ofNat_eq_natCast]
    omega
  | negSucc m =>
    cases ds with
    | nil => contradiction
    | cons c ds =>
      have hc := (List.cons.inj hds).1
      exact absurd (hdigits c List.mem_cons_self) (by rw [← hc]; decide)

theorem scan_iso (hmonth : 1 ≤ d.month) (hday : 1 ≤ d.day) (hyear : d.FourDigitYear) :
    scan dashed d.iso = some ([(.year,d.year.toNat),(.literal '-',0),(.month,d.month),
      (.literal '-',0),(.day,d.day)],[]) := by
  obtain ⟨hlo,hhi⟩ := hyear
  obtain ⟨y,hy⟩ := Int.eq_ofNat_of_zero_le (show 0 ≤ d.year by omega)
  have hlength := (length_toDigits_eq_four_iff y).mpr (by omega)
  have hm := d.month_le
  have hd := d.day_le
  obtain ⟨_,hmonth'⟩ := upTo_twoDigits (And.intro hmonth hm) (by omega) ('-' :: twoDigits d.day)
  obtain ⟨others,hday'⟩ := upTo_twoDigits (And.intro hday hd) (by omega) []
  have hreading : Directive.day.readings (twoDigits d.day) =
      (d.day,[]) :: (others ++ blankDigit (twoDigits d.day)) := by
    rw [List.append_nil] at hday'
    rw [Directive.readings,hday',List.cons_append]
  have hyear : Directive.year.readings d.iso =
      [(y,'-' :: twoDigits d.month ++ '-' :: twoDigits d.day)] := by
    rw [Directive.readings,Date.iso,hy,List.append_assoc]
    have hread := number_append hlength (fun c hc => isDigit_of_mem_toDigits hc)
      ('-' :: twoDigits d.month ++ '-' :: twoDigits d.day)
    rw [Nat.ofDigitChars_ten_toDigits] at hread
    exact congrArg Option.toList hread
  have hy' : d.year.toNat = y := by rw [hy]; rfl
  rw [hy']
  exact scan_cons hyear (scan_cons rfl (scan_cons hmonth' (scan_cons rfl (scan_cons hreading rfl))))

theorem iso_dash (d : Date) : '-' ∈ d.iso := by
  simp [Date.iso]

theorem not_isWhitespace_of_isDigit {c : Char} (h : c.isDigit = true) : c.isWhitespace = false := by
  by_contra hspace
  simp only [Char.isWhitespace,Bool.not_eq_false,Bool.or_eq_true,decide_eq_true_eq] at hspace
  rcases hspace with ((rfl | rfl) | rfl) | rfl <;> contradiction

theorem isDigit_or_dash {c : Char} (h : c ∈ d.iso) : c.isDigit = true ∨ c = '-' := by
  have hm := d.month_le
  have hd := d.day_le
  simp only [Date.iso,List.append_assoc,List.cons_append,List.mem_append,List.mem_cons] at h
  rcases h with h | h | h | h | h
  · cases hy : d.year with
    | ofNat n =>
      rw [hy] at h
      exact .inl (isDigit_of_mem_toDigits h)
    | negSucc n =>
      rw [hy] at h
      rcases List.mem_cons.mp h with h | h
      · exact .inr h
      · exact .inl (isDigit_of_mem_toDigits h)
  · exact .inr h
  · exact .inl ((twoDigits_spec d.month (by omega)).2 c h)
  · exact .inr h
  · exact .inl ((twoDigits_spec d.day (by omega)).2 c h)

theorem strip_iso (d : Date) : strip d.iso = d.iso := by
  have hspace : ∀ c ∈ d.iso, ¬ c.isWhitespace = true := by
    intro c hc
    rcases isDigit_or_dash hc with hdigit | rfl
    · rw [not_isWhitespace_of_isDigit hdigit]
      exact Bool.false_ne_true
    · decide
  rw [strip,List.dropWhile_eq_self_iff.mpr fun h => hspace _ (List.getElem_mem h),
    List.rdropWhile_eq_self_iff]
  exact fun hne => hspace _ (List.getLast_mem hne)

theorem Date.ofFields_self (hyear : 1 ≤ d.year) (hvalid : Date.ofDays d.toDays = d) :
    Date.ofFields d.year.toNat d.month d.day = some d := by
  obtain ⟨y,month,day,hmonth,hday⟩ := d
  have hcast : (y.toNat : Int) = y := Int.toNat_of_nonneg (by simp only at hyear; omega)
  have hpos : 1 ≤ y.toNat := by
    simp only at hyear
    omega
  rw [Date.ofFields,dif_pos ⟨hmonth,hday⟩]
  simp only [hcast]
  rw [if_pos ⟨hpos,hvalid⟩]

theorem Date.one_le_month_ofDays (days : Int) : 1 ≤ (Date.ofDays days).month := by
  simp only [Date.ofDays]
  split <;> omega

theorem strptimeDate_iso {days : Int} (hyear : (Date.ofDays days).FourDigitYear) :
    strptimeDate dashed (Date.ofDays days).iso = some (Date.ofDays days) := by
  have hpos : 1 ≤ (Date.ofDays days).year := by
    have := hyear.1
    omega
  have hvalid : Date.ofDays (Date.ofDays days).toDays = Date.ofDays days := by
    rw [Date.toDays_ofDays]
  rw [strptimeDate,scan_iso (Date.one_le_month_ofDays days) (Nat.le_add_left 1 _) hyear]
  exact Date.ofFields_self hpos hvalid

theorem strptimeDate_iso_none (hyear : ¬ d.FourDigitYear) : strptimeDate dashed d.iso = none := by
  unfold strptimeDate
  split
  next fields hscan =>
    refine absurd ?_ hyear
    obtain ⟨⟨n,rest⟩,hreading,hrest⟩ := List.exists_of_findSome?_eq_some hscan
    obtain ⟨⟨fields',left⟩,hscan',-⟩ := Option.map_eq_some_iff.mp hrest
    obtain ⟨⟨_,rest'⟩,hliteral,-⟩ := List.exists_of_findSome?_eq_some hscan'
    cases rest with
    | nil => contradiction
    | cons c rest =>
      simp only [Directive.readings,Option.mem_toList] at hreading hliteral
      split at hliteral
      next hc =>
        subst hc
        rw [Date.iso,List.append_assoc] at hreading
        exact number_yearDigits hreading
      next => contradiction
  next => rfl

end Iso

end Calendar
