import Mathlib.Data.List.Basic
set_option autoImplicit false

/-!
The proleptic Gregorian calendar in UTC, and times printed as `%Y%m%d_%H%M%S`. Dates
are counted in years that begin on 1 March, so that the leap day is the last of its year.
-/

namespace Calendar

/-- A day as its 400-year era and the day in it. -/
def eraDays : Nat := 146097

/-- The year of a day of an era. The last century of an era and the last year of four are
a day longer than the others. -/
def yearOfEra (doe : Nat) : Nat :=
  let century := min (doe / 36524) 3
  let doc := doe - century * 36524
  century * 100 + doc / 1461 * 4 + min (doc % 1461 / 365) 3

def yearStart (yoe : Nat) : Nat := yoe * 365 + yoe / 4 - yoe / 100

theorem century_spec {doe : Nat} (h : doe < eraDays) :
    min (doe / 36524) 3 ≤ 3 ∧ min (doe / 36524) 3 * 36524 ≤ doe ∧
      doe - min (doe / 36524) 3 * 36524 ≤ 36524 := by
  unfold eraDays at h
  omega

theorem year_spec {doq : Nat} (h : doq < 1461) :
    min (doq / 365) 3 ≤ 3 ∧ min (doq / 365) 3 * 365 ≤ doq ∧
      doq - min (doq / 365) 3 * 365 ≤ 365 := by
  omega

theorem yearOfEra_spec {doe : Nat} (h : doe < eraDays) :
    yearOfEra doe < 400 ∧ yearStart (yearOfEra doe) ≤ doe ∧
      doe < yearStart (yearOfEra doe) + 366 := by
  unfold yearOfEra
  have hcentury := century_spec h
  generalize min (doe / 36524) 3 = c at *
  simp only
  generalize hdoc : doe - c * 36524 = doc at *
  have hyear := year_spec (Nat.mod_lt doc (show 1461 > 0 by decide))
  generalize min (doc % 1461 / 365) 3 = y at *
  have hquad : doc = doc / 1461 * 1461 + doc % 1461 := by omega
  have hquad' : doc / 1461 ≤ 24 := by omega
  generalize doc % 1461 = doq at *
  generalize doc / 1461 = q at *
  have h4 : (c * 100 + q * 4 + y) / 4 = c * 25 + q := by omega
  have h100 : (c * 100 + q * 4 + y) / 100 = c := by omega
  rw [yearStart,h4,h100]
  omega

def monthOfDay (doy : Nat) : Nat := (5 * doy + 2) / 153

def monthStart (m : Nat) : Nat := (153 * m + 2) / 5

theorem monthOfDay_spec {doy : Nat} (h : doy < 366) :
    monthOfDay doy < 12 ∧ monthStart (monthOfDay doy) ≤ doy ∧
      doy < monthStart (monthOfDay doy) + 31 := by
  unfold monthStart monthOfDay
  omega

structure Date where
  year : Int
  month : Nat
  day : Nat
  month_le : month ≤ 12
  day_le : day ≤ 31

theorem month_spec {m doy : Nat} (hm : m = monthOfDay doy) (h : doy < 366) :
    (if m < 10 then m + 3 else m - 9) ≤ 12 ∧ doy - monthStart m + 1 ≤ 31 := by
  obtain ⟨hlt,hle,hday⟩ := monthOfDay_spec h
  rw [← hm] at hlt hle hday
  split <;> omega

def Date.ofDays (days : Int) : Date :=
  let doe := (days % eraDays).toNat
  let yoe := yearOfEra doe
  let doy := doe - yearStart yoe
  let m := monthOfDay doy
  have hdoe : doe < eraDays := by simp only [doe,eraDays]; omega
  have hdoy : doe - yearStart (yearOfEra doe) < 366 := by
    have := (yearOfEra_spec hdoe).2.2
    omega
  { year := days / eraDays * 400 + yoe + (if m < 10 then 0 else 1)
    month := if m < 10 then m + 3 else m - 9
    day := doy - monthStart m + 1
    month_le := (month_spec rfl hdoy).1
    day_le := (month_spec rfl hdoy).2 }

def Date.toDays (d : Date) : Int :=
  let year := if d.month < 3 then d.year - 1 else d.year
  let m := if d.month < 3 then d.month + 9 else d.month - 3
  year / 400 * eraDays + yearStart (year % 400).toNat + (monthStart m + d.day - 1 : Nat)

theorem Date.toDays_ofDays (days : Int) : (Date.ofDays days).toDays = days := by
  have hdoe : (days % eraDays).toNat < eraDays := by unfold eraDays; omega
  have hdays : days = days / eraDays * eraDays + (days % eraDays).toNat := by
    unfold eraDays; omega
  unfold ofDays toDays
  simp only
  generalize (days % eraDays).toNat = doe at *
  generalize days / eraDays = era at *
  obtain ⟨hyoe,hle,hlt⟩ := yearOfEra_spec hdoe
  generalize yearOfEra doe = yoe at *
  have hdoy : doe - yearStart yoe < 366 := by omega
  obtain ⟨hm,hmle,hmlt⟩ := monthOfDay_spec hdoy
  generalize monthOfDay (doe - yearStart yoe) = m at *
  have hyear : ∀ y : Int, y = era * 400 + yoe → y / 400 = era ∧ (y % 400).toNat = yoe := by omega
  by_cases hsplit : m < 10
  · obtain ⟨h400,hyoe'⟩ := hyear (era * 400 + yoe + 0) (by omega)
    have hmonth : ¬ m + 3 < 3 := by omega
    simp only [hsplit,if_true,if_neg hmonth,h400,hyoe',Nat.add_sub_cancel]
    omega
  · obtain ⟨h400,hyoe'⟩ := hyear (era * 400 + yoe + 1 - 1) (by omega)
    have hmonth : m - 9 < 3 := by omega
    have hmonth' : m - 9 + 9 = m := by omega
    simp only [hsplit,if_false,if_pos hmonth,h400,hyoe',hmonth']
    omega

structure DateTime where
  date : Date
  hour : Nat
  minute : Nat
  second : Nat
  hour_lt : hour < 24
  minute_lt : minute < 60
  second_lt : second < 60

/-- Days from 1 March of the year 0 to the Unix epoch. -/
def epochDays : Int := 719468

def DateTime.ofSeconds (s : Int) : DateTime where
  date := .ofDays (s / 86400 + epochDays)
  hour := (s % 86400 / 3600).toNat
  minute := (s % 3600 / 60).toNat
  second := (s % 60).toNat
  hour_lt := by omega
  minute_lt := by omega
  second_lt := by omega

def DateTime.toSeconds (d : DateTime) : Int :=
  (d.date.toDays - epochDays) * 86400 + d.hour * 3600 + d.minute * 60 + d.second

theorem DateTime.toSeconds_ofSeconds (s : Int) : (DateTime.ofSeconds s).toSeconds = s := by
  simp only [toSeconds,ofSeconds,Date.toDays_ofDays]
  omega

def twoDigits (n : Nat) : List Char := [(n / 10).digitChar,(n % 10).digitChar]

theorem twoDigits_inj {m n : Nat} (hm : m < 100) (hn : n < 100)
    (h : twoDigits m = twoDigits n) : m = n := by
  have key : ∀ i j : Fin 10, (i : Nat).digitChar = (j : Nat).digitChar → i = j := by decide
  have htens := key ⟨m / 10,by omega⟩ ⟨n / 10,by omega⟩ (List.cons.inj h).1
  have hones := key ⟨m % 10,by omega⟩ ⟨n % 10,by omega⟩ (List.cons.inj (List.cons.inj h).2).1
  simp only [Fin.mk.injEq] at htens hones
  omega

def yearDigits : Int → List Char
  | .ofNat n => Nat.toDigits 10 n
  | .negSucc n => '-' :: Nat.toDigits 10 (n + 1)

theorem dash_not_in_toDigits (n : Nat) : '-' ∉ Nat.toDigits 10 n := by
  intro h
  have := Nat.isDigit_of_mem_toDigits (by decide) (by decide) h
  contradiction

theorem toDigits_inj {m n : Nat} (h : Nat.toDigits 10 m = Nat.toDigits 10 n) : m = n := by
  have := congrArg (fun l => Nat.ofDigitChars 10 l 0) h
  simpa using this

theorem yearDigits_inj {y z : Int} (h : yearDigits y = yearDigits z) : y = z := by
  cases y with
  | ofNat m =>
    cases z with
    | ofNat n => rw [toDigits_inj h]
    | negSucc n =>
      have hd : '-' ∈ Nat.toDigits 10 m := by
        rw [show Nat.toDigits 10 m = _ from h]; exact List.mem_cons_self
      exact absurd hd (dash_not_in_toDigits m)
  | negSucc m =>
    cases z with
    | ofNat n =>
      have hd : '-' ∈ Nat.toDigits 10 n := by
        rw [show Nat.toDigits 10 n = _ from h.symm]; exact List.mem_cons_self
      exact absurd hd (dash_not_in_toDigits n)
    | negSucc n =>
      have hn := toDigits_inj (List.cons.inj h).2
      rw [Nat.succ.inj hn]

theorem underscore_not_in_yearDigits (y : Int) : '_' ∉ yearDigits y := by
  cases y with
  | ofNat n => exact Nat.underscore_not_in_toDigits
  | negSucc n => simp [yearDigits,Nat.underscore_not_in_toDigits]

def Date.stamp (d : Date) : List Char :=
  yearDigits d.year ++ twoDigits d.month ++ twoDigits d.day

def DateTime.timeStamp (d : DateTime) : List Char :=
  twoDigits d.hour ++ twoDigits d.minute ++ twoDigits d.second

/-- Python's `strftime("%Y%m%d_%H%M%S")`. -/
def DateTime.strftime (d : DateTime) : String :=
  String.ofList (d.date.stamp ++ '_' :: d.timeStamp)

theorem underscore_not_in_twoDigits (n : Nat) : '_' ∉ twoDigits n := by
  have h := fun m => Nat.digitChar_ne (n := m) '_' (by decide)
  simp [twoDigits,(h _).symm]

theorem underscore_not_in_stamp (d : Date) : '_' ∉ d.stamp := by
  simp [Date.stamp,underscore_not_in_yearDigits,underscore_not_in_twoDigits]

theorem underscore_not_in_timeStamp (d : DateTime) : '_' ∉ d.timeStamp := by
  simp [DateTime.timeStamp,underscore_not_in_twoDigits]

theorem Date.stamp_inj {d e : Date} (h : d.stamp = e.stamp) : d = e := by
  obtain ⟨hym,hday⟩ := List.append_inj' h rfl
  obtain ⟨hyear,hmonth⟩ := List.append_inj' hym rfl
  have hy := yearDigits_inj hyear
  have hm := twoDigits_inj (by have := d.month_le; omega) (by have := e.month_le; omega) hmonth
  have hd := twoDigits_inj (by have := d.day_le; omega) (by have := e.day_le; omega) hday
  cases d; cases e; simp_all

theorem DateTime.timeStamp_inj {d e : DateTime} (h : d.timeStamp = e.timeStamp) :
    d.hour = e.hour ∧ d.minute = e.minute ∧ d.second = e.second := by
  obtain ⟨hhm,hsecond⟩ := List.append_inj' h rfl
  obtain ⟨hhour,hminute⟩ := List.append_inj' hhm rfl
  refine ⟨twoDigits_inj ?_ ?_ hhour,twoDigits_inj ?_ ?_ hminute,twoDigits_inj ?_ ?_ hsecond⟩
  · have := d.hour_lt; omega
  · have := e.hour_lt; omega
  · have := d.minute_lt; omega
  · have := e.minute_lt; omega
  · have := d.second_lt; omega
  · have := e.second_lt; omega

theorem append_cons_inj_of_not_mem {α : Type} {a : α} {x y u v : List α} (hu : a ∉ u) (hv : a ∉ v)
    (h : x ++ a :: u = y ++ a :: v) : x = y ∧ u = v := by
  rcases List.append_eq_append_iff.mp h with ⟨c,hy,hc⟩ | ⟨c,hx,hc⟩
  · cases c with
    | nil => exact ⟨by simpa using hy.symm,(List.cons.inj hc).2⟩
    | cons b c => exact absurd (by simp [(List.cons.inj hc).2]) hu
  · cases c with
    | nil => exact ⟨by simpa using hx,(List.cons.inj hc).2.symm⟩
    | cons b c => exact absurd (by simp [(List.cons.inj hc).2]) hv

/-- A text with a stamp appended after an underscore determines the text and the time. -/
theorem strftime_inj {a b : String} {d e : DateTime}
    (h : a ++ "_" ++ d.strftime = b ++ "_" ++ e.strftime) : a = b ∧ d = e := by
  have hl : (a.toList ++ '_' :: d.date.stamp) ++ '_' :: d.timeStamp =
      (b.toList ++ '_' :: e.date.stamp) ++ '_' :: e.timeStamp := by
    have := congrArg String.toList h
    simpa [DateTime.strftime] using this
  obtain ⟨hday,htime⟩ := append_cons_inj_of_not_mem (underscore_not_in_timeStamp d)
    (underscore_not_in_timeStamp e) hl
  obtain ⟨hab,hdate⟩ := append_cons_inj_of_not_mem (underscore_not_in_stamp d.date)
    (underscore_not_in_stamp e.date) hday
  obtain ⟨hhour,hminute,hsecond⟩ := DateTime.timeStamp_inj htime
  have hde := Date.stamp_inj hdate
  refine ⟨String.toList_inj.mp hab,?_⟩
  cases d; cases e; simp_all

theorem strftime_ofSeconds_inj {a b : String} {s t : Int}
    (h : a ++ "_" ++ (DateTime.ofSeconds s).strftime =
      b ++ "_" ++ (DateTime.ofSeconds t).strftime) : a = b ∧ s = t := by
  obtain ⟨hab,hst⟩ := strftime_inj h
  have := congrArg DateTime.toSeconds hst
  rw [DateTime.toSeconds_ofSeconds,DateTime.toSeconds_ofSeconds] at this
  exact ⟨hab,this⟩

end Calendar
