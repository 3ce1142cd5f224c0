import RoutingBench.TextFields
set_option autoImplicit false

/-!
Texts of Python: what its methods of strings do, how `int` reads a number, and how a file is read
line by line.
-/

namespace PythonText
open TextFields

/-- `str.isspace` of a character. -/
def isSpace (c : Char) : Bool :=
  let n := c.toNat
  (0x09 ≤ n && n ≤ 0x0D) || (0x1C ≤ n && n ≤ 0x20) || n = 0x85 || n = 0xA0 || n = 0x1680 ||
    (0x2000 ≤ n && n ≤ 0x200A) || n = 0x2028 || n = 0x2029 || n = 0x202F || n = 0x205F ||
    n = 0x3000

/-- `text.strip()` and `text.strip(c)` -/
def strip (text : List Char) : List Char := trim isSpace text

def stripChar (c : Char) (text : List Char) : List Char := trim (fun d => d = c) text

/-- `text.partition(sep)` -/
def partition (sep : Char) (text : List Char) : List Char × List Char × List Char :=
  let rest := text.dropWhile fun c => c ≠ sep
  (text.takeWhile fun c => c ≠ sep,rest.take 1,rest.drop 1)

/-- The zeros of the decimal digits of Unicode; from each the other nine follow. -/
def zeros : List Nat :=
  [0x30,0x660,0x6F0,0x7C0,0x966,0x9E6,0xA66,0xAE6,0xB66,0xBE6,0xC66,0xCE6,0xD66,0xDE6,0xE50,0xED0,
    0xF20,0x1040,0x1090,0x17E0,0x1810,0x1946,0x19D0,0x1A80,0x1A90,0x1B50,0x1BB0,0x1C40,0x1C50,
    0xA620,0xA8D0,0xA900,0xA9D0,0xA9F0,0xAA50,0xABF0,0xFF10,0x104A0,0x10D30,0x11066,0x110F0,
    0x11136,0x111D0,0x112F0,0x11450,0x114D0,0x11650,0x116C0,0x11730,0x118E0,0x11950,0x11C50,
    0x11D50,0x11DA0,0x11F50,0x16A60,0x16AC0,0x16B50,0x1D7CE,0x1D7D8,0x1D7E2,0x1D7EC,0x1D7F6,
    0x1E140,0x1E2F0,0x1E4F0,0x1E950,0x1FBF0]

def isDecimal (c : Char) : Bool := zeros.any fun z => z ≤ c.toNat && c.toNat < z + 10

/-- `text` without a sign. -/
def unsigned : List Char → List Char
  | [] => []
  | c :: cs => if c = '+' || c = '-' then cs else c :: cs

/-- `int(text)` does not raise: there are digits, and single underscores between digits. -/
def isInt (text : List Char) : Bool :=
  ((unsigned (strip text)).splitOn '_').all fun digits => digits ≠ [] && digits.all isDecimal

/-- Universal newlines: each of '\r', '\n' and "\r\n" is read as '\n'. -/
def universal : List Char → List Char
  | [] => []
  | c :: cs =>
    if c = '\r' then
      if cs.head? = some '\n' then universal cs else '\n' :: universal cs
    else c :: universal cs

/-- `fh.readlines()`; a line ends with its '\n', which the last one need not have. -/
def readlines (text : List Char) : List (List Char) :=
  let pieces := (universal text).splitOn '\n'
  pieces.dropLast.map (fun piece => piece ++ ['\n']) ++
    pieces.getLast?.toList.filter fun piece => piece ≠ []

section Strip

variable {text value pad : List Char} {sep : Char}

theorem strip_eq_self : strip text = text ↔
    (∀ c ∈ text.head?, isSpace c = false) ∧ ∀ c ∈ text.getLast?, isSpace c = false :=
  trim_eq_self

theorem isSpace_replicate (n : Nat) : ∀ c ∈ List.replicate n ' ', isSpace c = true := by
  intro c hc
  rw [List.eq_of_mem_replicate hc]
  decide

theorem partition_append_cons (h : sep ∉ text) :
    partition sep (text ++ sep :: value) = (text,[sep],value) := by
  have hne : ∀ c ∈ text, decide (c ≠ sep) = true := by
    intro c hc
    exact decide_eq_true fun heq => h (heq ▸ hc)
  rw [partition,List.takeWhile_append_of_pos hne,List.dropWhile_append_of_pos hne]
  simp

end Strip

section Int

variable {c : Char}

theorem isDigit_bounds (h : c.isDigit = true) : 0x30 ≤ c.toNat ∧ c.toNat ≤ 0x39 := by
  simpa [Char.isDigit,UInt32.le_iff_toNat_le] using h

theorem isSpace_of_isDigit (h : c.isDigit = true) : isSpace c = false := by
  have hbounds := isDigit_bounds h
  simp only [isSpace,Bool.or_eq_false_iff,Bool.and_eq_false_iff,decide_eq_false_iff_not]
  omega

theorem isDecimal_of_isDigit (h : c.isDigit = true) : isDecimal c = true := by
  have hbounds := isDigit_bounds h
  refine List.any_eq_true.mpr ⟨0x30,List.mem_cons_self,?_⟩
  simp only [Bool.and_eq_true,decide_eq_true_eq]
  omega

/-- What the numbers of the script are. -/
theorem isInt_toDigits (n : Nat) : isInt (Nat.toDigits 10 n) = true := by
  have hdigit : ∀ c ∈ Nat.toDigits 10 n, c.isDigit = true :=
    fun c hc => Nat.isDigit_of_mem_toDigits (by decide) (by decide) hc
  have hstrip : strip (Nat.toDigits 10 n) = Nat.toDigits 10 n :=
    strip_eq_self.mpr ⟨fun c hc => isSpace_of_isDigit (hdigit c (List.mem_of_mem_head? hc)),
      fun c hc => isSpace_of_isDigit (hdigit c (List.mem_of_mem_getLast? hc))⟩
  have hunsigned : unsigned (Nat.toDigits 10 n) = Nat.toDigits 10 n := by
    cases hdigits : Nat.toDigits 10 n with
    | nil => rfl
    | cons c cs =>
      rw [hdigits] at hdigit
      have hbounds := isDigit_bounds (hdigit c List.mem_cons_self)
      rw [unsigned,if_neg]
      intro hsign
      simp only [Bool.or_eq_true,decide_eq_true_eq] at hsign
      rcases hsign with rfl | rfl <;> contradiction
  have hne : Nat.toDigits 10 n ≠ [] := Nat.toDigits_ne_nil
  rw [isInt,hstrip,hunsigned,List.splitOn_eq_singleton Nat.underscore_not_in_toDigits]
  simpa [hne] using fun c hc => isDecimal_of_isDigit (hdigit c hc)

end Int

section Lines

variable {α : Type*} {f : List Char → Option α} {s t : List Char}

/-- What is made of the lines does not depend on how they end. -/
theorem filterMap_readlines (hnil : f [] = none) (hend : ∀ line, f (line ++ ['\n']) = f line)
    (text : List Char) :
    (readlines text).filterMap f = ((universal text).splitOn '\n').filterMap f := by
  have hne : (universal text).splitOn '\n' ≠ [] := List.splitOn_ne_nil _ _
  generalize hpieces : (universal text).splitOn '\n' = pieces at hne
  have hinit : (pieces.dropLast.map fun piece => piece ++ ['\n']).filterMap f =
      pieces.dropLast.filterMap f := by
    rw [List.filterMap_map]
    exact List.filterMap_congr fun piece _ => hend piece
  have hlast : ([pieces.getLast hne].filter fun piece => piece ≠ []).filterMap f =
      [pieces.getLast hne].filterMap f := by
    by_cases hempty : pieces.getLast hne = [] <;> simp [hempty,hnil]
  rw [readlines,hpieces,List.filterMap_append,hinit,List.getLast?_eq_some_getLast hne,
    Option.toList_some,hlast,← List.filterMap_append,List.dropLast_concat_getLast]

theorem universal_cons (c : Char) (cs : List Char) : universal (c :: cs) =
    (if c = '\r' then if cs.head? = some '\n' then [] else ['\n'] else [c]) ++ universal cs := by
  rw [universal]
  split
  · split <;> rfl
  · rfl

theorem universal_append (h : s.getLast? ≠ some '\r' ∨ t.head? ≠ some '\n') :
    universal (s ++ t) = universal s ++ universal t := by
  induction s with
  | nil => rfl
  | cons c s ih =>
    cases s with
    | nil =>
      by_cases hreturn : c = '\r'
      · have hhead : t.head? ≠ some '\n' := h.resolve_left (by simp [hreturn])
        simp [universal,hreturn,hhead]
      · simp [universal,hreturn]
    | cons d s =>
      have hrest := ih (by simpa using h)
      rw [List.cons_append,universal_cons,hrest,universal_cons c (d :: s),List.append_assoc]
      rfl

/-- Texts with the end of a line between them are read one after the other. -/
theorem filterMap_universal (hnil : f [] = none) (s t : List Char) :
    ((universal (s ++ '\n' :: t)).splitOn '\n').filterMap f =
      ((universal s).splitOn '\n').filterMap f ++ ((universal t).splitOn '\n').filterMap f := by
  have hnewline : universal ('\n' :: t) = '\n' :: universal t := rfl
  by_cases hlast : s.getLast? = some '\r'
  · obtain ⟨r,rfl⟩ := List.getLast?_eq_some_iff.mp hlast
    have hreturn : universal ('\r' :: '\n' :: t) = '\n' :: universal t := rfl
    have hsingle : universal ['\r'] = ['\n'] := rfl
    rw [List.append_assoc,List.singleton_append,universal_append (.inr (by simp)),hreturn,
      universal_append (.inr (by simp)),hsingle,List.splitOn_append_cons_self,
      List.splitOn_append_cons_self,List.filterMap_append,List.filterMap_append,List.splitOn_nil]
    simp [hnil]
  · rw [universal_append (.inl hlast),hnewline,List.splitOn_append_cons_self,
      List.filterMap_append]

theorem universal_eq_self (h : '\r' ∉ s) : universal s = s := by
  induction s with
  | nil => rfl
  | cons c s ih =>
    obtain ⟨hc,hs⟩ := not_or.mp (mt List.mem_cons.mpr h)
    rw [universal,if_neg fun heq => hc heq.symm,ih hs]

/-- Lines that are written one after the other are read one after the other. -/
theorem filterMap_flatMap (hnil : f [] = none) {lines : List (List Char)}
    (h : ∀ line ∈ lines, '\n' ∉ line ∧ '\r' ∉ line) (t : List Char) :
    ((universal ((lines.flatMap fun line => line ++ ['\n']) ++ t)).splitOn '\n').filterMap f =
      lines.filterMap f ++ ((universal t).splitOn '\n').filterMap f := by
  induction lines with
  | nil => rfl
  | cons line lines ih =>
    obtain ⟨⟨hnewline,hreturn⟩,hrest⟩ := List.forall_mem_cons.mp h
    rw [List.flatMap_cons,List.append_assoc,List.append_assoc,List.singleton_append,
      filterMap_universal hnil,ih hrest,universal_eq_self hreturn,
      List.splitOn_eq_singleton hnewline,← List.append_assoc,← List.filterMap_append]
    rfl

end Lines

end PythonText
