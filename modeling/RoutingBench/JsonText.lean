import RoutingBench.Watcher
set_option autoImplicit false

/-!
The reader of the details that the watchers write: json.loads of an object whose values are texts.
It reads back what json.dumps has printed, characters outside of the first plane included.
-/

namespace RoutingBench

section Reader

def hexDigit (c : Char) : Option Nat :=
  if c.isDigit then some (c.toNat - 48)
  else if 'a' ≤ c ∧ c ≤ 'f' then some (c.toNat - 87)
  else if 'A' ≤ c ∧ c ≤ 'F' then some (c.toNat - 55)
  else none

/-- The UTF-16 code unit of four digits. -/
def hexUnit (a b c d : Char) : Option Nat :=
  (hexDigit a).bind fun a => (hexDigit b).bind fun b => (hexDigit c).bind fun c =>
    (hexDigit d).map fun d => 4096 * a + 256 * b + 16 * c + d

def unescaped : Char → Option Char
  | '"' => some '"'
  | '\\' => some '\\'
  | '/' => some '/'
  | 'b' => some '\x08'
  | 'f' => some '\x0c'
  | 'n' => some '\n'
  | 'r' => some '\r'
  | 't' => some '\t'
  | _ => none

/-- The second half of a pair of surrogates. -/
def lowSurrogate : List Char → Option (Nat × List Char)
  | '\\' :: 'u' :: a :: b :: c :: d :: rest =>
    (hexUnit a b c d).bind fun m => if 56320 ≤ m ∧ m < 57344 then some (m,rest) else none
  | _ => none

/-- A character of a text, and what follows it. A surrogate that is alone is none of Lean's
characters, and no text has one. -/
def readChar : List Char → Option (Char × List Char)
  | '\\' :: 'u' :: a :: b :: c :: d :: rest => (hexUnit a b c d).map fun n =>
    match if 55296 ≤ n ∧ n < 56320 then lowSurrogate rest else none with
    | some (m,rest) => (Char.ofNat (65536 + 1024 * (n - 55296) + (m - 56320)),rest)
    | none => (Char.ofNat n,rest)
  | '\\' :: c :: rest => (unescaped c).map fun c => (c,rest)
  | c :: rest => if c < ' ' then none else some (c,rest)
  | [] => none

/-- A text up to its closing quote; the number bounds its length. -/
def readText : Nat → List Char → Option (List Char × List Char)
  | 0,_ => none
  | n + 1,cs =>
    match cs with
    | '"' :: rest => some ([],rest)
    | cs => (readChar cs).bind fun (c,rest) => (readText n rest).map fun (text,rest) =>
      (c :: text,rest)

def skipBlanks (cs : List Char) : List Char :=
  cs.dropWhile fun c => c = ' ' || c = '\t' || c = '\n' || c = '\r'

def expect (c : Char) (cs : List Char) : Option (List Char) :=
  match skipBlanks cs with
  | d :: rest => if d = c then some rest else none
  | [] => none

def readString (cs : List Char) : Option (String × List Char) :=
  (expect '"' cs).bind fun cs => (readText cs.length cs).map fun (text,rest) =>
    (String.ofList text,rest)

def readFields : Nat → List Char → Option (List (String × String) × List Char)
  | 0,_ => none
  | n + 1,cs =>
    (readString cs).bind fun (key,cs) => (expect ':' cs).bind readString |>.bind fun (value,cs) =>
      match expect ',' cs with
      | some cs => (readFields n cs).map fun (fields,rest) => ((key,value) :: fields,rest)
      | none => (expect '\x7d' cs).map fun rest => ([(key,value)],rest)

def jsonLoads (text : String) : Option (List (String × String)) :=
  (expect '\x7b' text.toList).bind fun cs =>
    match (match expect '\x7d' cs with
      | some rest => some ([],rest)
      | none => readFields cs.length cs) with
    | some (fields,rest) => if skipBlanks rest = [] then some fields else none
    | none => none

/-- `fields.get(key, "")`; of equal keys the last one counts. -/
def jsonGet (fields : List (String × String)) (key : String) : String :=
  (fields.reverse.lookup key).getD ""

end Reader

section Characters

variable {rest : List Char}

theorem hexDigit_digitChar {n : Nat} (h : n < 16) : hexDigit (Nat.digitChar n) = some n := by
  have hall : ∀ n < 16, hexDigit (Nat.digitChar n) = some n := by decide
  exact hall n h

theorem jsonUnit_toList (n : Nat) : (jsonUnit n).toList = '\\' :: 'u' :: Nat.digitChar (n / 4096) ::
    Nat.digitChar (n / 256 % 16) :: Nat.digitChar (n / 16 % 16) :: [Nat.digitChar (n % 16)] := by
  simp [jsonUnit]

theorem hexUnit_jsonUnit {n : Nat} (h : n < 65536) : hexUnit (Nat.digitChar (n / 4096))
    (Nat.digitChar (n / 256 % 16)) (Nat.digitChar (n / 16 % 16)) (Nat.digitChar (n % 16)) =
      some n := by
  have hdigits : 4096 * (n / 4096) + 256 * (n / 256 % 16) + 16 * (n / 16 % 16) + n % 16 = n := by
    omega
  rw [hexUnit,hexDigit_digitChar (by omega),hexDigit_digitChar (by omega),
    hexDigit_digitChar (by omega),hexDigit_digitChar (by omega)]
  exact congrArg some hdigits

theorem lowSurrogate_jsonUnit {m : Nat} (hlow : 56320 ≤ m) (hhigh : m < 57344) :
    lowSurrogate ((jsonUnit m).toList ++ rest) = some (m,rest) := by
  rw [jsonUnit_toList]
  simp only [List.cons_append,List.nil_append,lowSurrogate]
  rw [hexUnit_jsonUnit (by omega)]
  exact if_pos ⟨hlow,hhigh⟩

theorem readChar_jsonUnit {n : Nat} (h : n < 65536) :
    readChar ((jsonUnit n).toList ++ rest) =
      some (match if 55296 ≤ n ∧ n < 56320 then lowSurrogate rest else none with
        | some (m,rest) => (Char.ofNat (65536 + 1024 * (n - 55296) + (m - 56320)),rest)
        | none => (Char.ofNat n,rest)) := by
  rw [jsonUnit_toList]
  simp only [List.cons_append,List.nil_append,readChar]
  rw [hexUnit_jsonUnit h]
  rfl

theorem readChar_unit {c : Char} (h : c.toNat < 65536) :
    readChar ((jsonUnit c.toNat).toList ++ rest) = some (c,rest) := by
  have hvalid : ¬(55296 ≤ c.toNat ∧ c.toNat < 56320) := by
    have hc := c.valid
    simp only [UInt32.isValidChar,Nat.isValidChar] at hc
    change _ ∨ _ at hc
    have hval : c.val.toNat = c.toNat := rfl
    omega
  rw [readChar_jsonUnit h,if_neg hvalid]
  simp

theorem readChar_pair {c : Char} (h : 65536 ≤ c.toNat) :
    readChar ((jsonUnit (55296 + (c.toNat - 65536) / 1024)).toList ++
      ((jsonUnit (56320 + (c.toNat - 65536) % 1024)).toList ++ rest)) = some (c,rest) := by
  have hvalid : c.toNat < 1114112 := by
    have hc := c.valid
    simp only [UInt32.isValidChar,Nat.isValidChar] at hc
    have hval : c.val.toNat = c.toNat := rfl
    omega
  have hnumber : 65536 + 1024 * (55296 + (c.toNat - 65536) / 1024 - 55296) +
      (56320 + (c.toNat - 65536) % 1024 - 56320) = c.toNat := by omega
  rw [readChar_jsonUnit (by omega),if_pos (by omega),lowSurrogate_jsonUnit (by omega) (by omega)]
  dsimp only
  rw [hnumber,Char.ofNat_toNat]

/-- What is printed for a character: an escape, the character itself, a code unit or a pair. -/
theorem jsonChar_cases (c : Char) :
    (∃ d, (jsonChar c).toList = ['\\',d] ∧ unescaped d = some c ∧ d ≠ 'u') ∨
      ((jsonChar c).toList = [c] ∧ ' ' ≤ c ∧ c ≠ '"' ∧ c ≠ '\\') ∨
      (c.toNat < 65536 ∧ jsonChar c = jsonUnit c.toNat) ∨
      (65536 ≤ c.toNat ∧ jsonChar c = jsonUnit (55296 + (c.toNat - 65536) / 1024) ++
        jsonUnit (56320 + (c.toNat - 65536) % 1024)) := by
  unfold jsonChar
  split
  case h_8 hquote hslash _ _ _ _ _ =>
    split
    next hplain => exact .inr (.inl ⟨String.toList_singleton c,hplain.1,hquote,hslash⟩)
    next =>
      split
      next hunit => exact .inr (.inr (.inl ⟨hunit,rfl⟩))
      next hpair => exact .inr (.inr (.inr ⟨not_lt.mp hpair,rfl⟩))
  all_goals exact .inl ⟨_,rfl,rfl,by decide⟩

theorem readChar_escape {c d : Char} (h : unescaped d = some c) (hd : d ≠ 'u') :
    readChar ('\\' :: d :: rest) = some (c,rest) := by
  rw [readChar]
  · rw [h]
    rfl
  · rintro _ _ _ _ _ rfl
    exact absurd rfl hd

theorem readChar_plain {c : Char} (h : ' ' ≤ c) (hslash : c ≠ '\\') :
    readChar (c :: rest) = some (c,rest) := by
  rw [readChar]
  · exact if_neg (Char.not_lt.mpr h)
  · rintro _ _ _ _ _ rfl
    exact absurd rfl hslash
  · rintro _ _ rfl
    exact absurd rfl hslash

/-- What is printed for a character is read as this character. -/
theorem readChar_jsonChar (c : Char) (rest : List Char) :
    readChar ((jsonChar c).toList ++ rest) = some (c,rest) := by
  rcases jsonChar_cases c with ⟨d,hprinted,hd,hu⟩ | ⟨hprinted,hblank,-,hslash⟩ | ⟨hunit,hprinted⟩ |
    ⟨hpair,hprinted⟩
  · rw [hprinted]
    exact readChar_escape hd hu
  · rw [hprinted]
    exact readChar_plain hblank hslash
  · rw [hprinted]
    exact readChar_unit hunit
  · rw [hprinted,String.toList_append,List.append_assoc]
    exact readChar_pair hpair

theorem jsonChar_head (c : Char) : ∃ d cs, (jsonChar c).toList = d :: cs ∧ d ≠ '"' := by
  rcases jsonChar_cases c with ⟨d,hprinted,-,-⟩ | ⟨hprinted,-,hquote,-⟩ | ⟨-,hprinted⟩ |
    ⟨-,hprinted⟩
  · exact ⟨_,_,hprinted,by decide⟩
  · exact ⟨_,_,hprinted,hquote⟩
  · exact ⟨_,_,by rw [hprinted,jsonUnit_toList],by decide⟩
  · exact ⟨_,_,by rw [hprinted,String.toList_append,jsonUnit_toList]; rfl,by decide⟩

theorem readText_succ (n : Nat) {c : Char} (h : c ≠ '"') (cs : List Char) :
    readText (n + 1) (c :: cs) = (readChar (c :: cs)).bind fun (c,rest) =>
      (readText n rest).map fun (text,rest) => (c :: text,rest) := by
  rw [readText]
  rintro _ heq
  exact absurd (List.cons.inj heq).1 h

theorem readText_jsonChars (text rest : List Char) {n : Nat} (h : text.length < n) :
    readText n (text.flatMap (fun c => (jsonChar c).toList) ++ '"' :: rest) = some (text,rest) := by
  induction text generalizing n with
  | nil =>
    obtain ⟨n,rfl⟩ := Nat.exists_eq_succ_of_ne_zero (Nat.ne_of_gt h)
    rfl
  | cons c text ih =>
    obtain ⟨n,rfl⟩ := Nat.exists_eq_succ_of_ne_zero (Nat.ne_of_gt (Nat.zero_lt_of_lt h))
    rw [List.length_cons,Nat.succ_lt_succ_iff] at h
    rw [List.flatMap_cons,List.append_assoc]
    obtain ⟨d,cs,hhead,hd⟩ := jsonChar_head c
    rw [hhead,List.cons_append,readText_succ n hd,← List.cons_append,← hhead,readChar_jsonChar]
    simp [ih h]

theorem jsonChar_length (c : Char) : 0 < (jsonChar c).toList.length := by
  obtain ⟨d,cs,hhead,-⟩ := jsonChar_head c
  simp [hhead]

theorem length_le_jsonChars (text : List Char) :
    text.length ≤ (text.flatMap fun c => (jsonChar c).toList).length := by
  induction text with
  | nil => exact Nat.le_refl 0
  | cons c text ih =>
    have hc := jsonChar_length c
    rw [List.flatMap_cons,List.length_append,List.length_cons]
    omega

theorem jsonString_toList (text : String) : (jsonString text).toList =
    '"' :: (text.toList.flatMap (fun c => (jsonChar c).toList) ++ ['"']) := by
  have hjoin : (String.join (text.toList.map jsonChar)).toList =
      text.toList.flatMap fun c => (jsonChar c).toList := by
    rw [String.toList_join,List.flatMap_map]
  simp [jsonString,hjoin]

theorem readString_jsonString (text : String) (rest : List Char) :
    readString ((jsonString text).toList ++ rest) = some (text,rest) := by
  have hlength := length_le_jsonChars text.toList
  rw [jsonString_toList,List.cons_append,List.append_assoc,readString]
  have hquote : ∀ cs, expect '"' ('"' :: cs) = some cs := fun cs => rfl
  rw [hquote,Option.bind_some,List.singleton_append,readText_jsonChars]
  · simp
  · simp only [List.length_append,List.length_cons]
    omega

end Characters

section Objects

/-- A key that is printed as it is. -/
def Plain (key : String) : Prop := jsonString key = "\"" ++ key ++ "\""

instance (key : String) : Decidable (Plain key) := inferInstanceAs (Decidable (_ = _))

/-- The fields of an object whose values are texts. -/
def jsonTexts (fields : List (String × String)) : List (String × String) :=
  fields.map fun (key,value) => (key,jsonString value)

def fieldText (field : String × String) : List Char :=
  (jsonString field.1).toList ++ ':' :: ' ' :: (jsonString field.2).toList

variable {fields : List (String × String)}

theorem jsonDumps_toList (h : ∀ field ∈ fields, Plain field.1) :
    (jsonDumps (jsonTexts fields)).toList =
      '\x7b' :: ([',',' '].intercalate (fields.map fieldText) ++ ['\x7d']) := by
  have hfields : (jsonTexts fields).map (fun field : String × String =>
      ("\"" ++ field.1 ++ "\": " ++ field.2).toList) = fields.map fieldText := by
    rw [jsonTexts,List.map_map]
    refine List.map_congr_left fun field hfield => ?_
    have hkey : jsonString field.1 = "\"" ++ field.1 ++ "\"" := h field hfield
    simp [fieldText,hkey]
  simp only [jsonDumps,String.toList_append,String.toList_intercalate,List.map_map]
  exact congrArg (fun texts => '\x7b' :: ([',',' '].intercalate texts ++ ['\x7d'])) hfields

theorem readString_blank (cs : List Char) : readString (' ' :: cs) = readString cs := rfl

theorem readFields_field (n : Nat) (field : String × String) (rest : List Char) :
    readFields (n + 1) (fieldText field ++ rest) =
      match expect ',' rest with
      | some cs => (readFields n cs).map fun (fields,rest) => (field :: fields,rest)
      | none => (expect '\x7d' rest).map fun rest => ([field],rest) := by
  have hcolon : ∀ cs, expect ':' (':' :: cs) = some cs := fun cs => rfl
  rw [readFields,fieldText,List.append_assoc,readString_jsonString]
  simp only [Option.bind_some,List.cons_append,hcolon,readString_blank,readString_jsonString]

theorem readFields_fields {n : Nat} (hne : fields ≠ []) (hn : fields.length ≤ n)
    (rest : List Char) :
    readFields n ([',',' '].intercalate (fields.map fieldText) ++ '\x7d' :: rest) =
      some (fields,rest) := by
  induction fields generalizing n with
  | nil => contradiction
  | cons field fields ih =>
    obtain ⟨n,rfl⟩ := Nat.exists_eq_succ_of_ne_zero (Nat.ne_of_gt (Nat.zero_lt_of_lt hn))
    cases fields with
    | nil =>
      rw [List.map_singleton,List.intercalate_singleton,readFields_field]
      rfl
    | cons next fields =>
      have hblank : ∀ cs, readFields n (' ' :: cs) = readFields n cs := by
        intro cs
        cases n with
        | zero => rfl
        | succ n => rw [readFields,readFields,readString_blank]
      have hcomma : ∀ cs, expect ',' (',' :: cs) = some cs := fun cs => rfl
      rw [List.map_cons,List.map_cons,List.intercalate_cons_cons,← List.map_cons,List.append_assoc,
        List.append_assoc,readFields_field]
      simp only [List.cons_append,List.nil_append,hcomma,hblank]
      rw [ih (List.cons_ne_nil next fields) (Nat.le_of_succ_le_succ hn)]
      rfl

theorem length_le_fields (fields : List (String × String)) :
    fields.length ≤ ([',',' '].intercalate (fields.map fieldText)).length := by
  induction fields with
  | nil => exact Nat.le_refl 0
  | cons field fields ih =>
    have hfield : 0 < (fieldText field).length := by
      rw [fieldText,List.length_append,List.length_cons]
      exact Nat.add_pos_right _ (Nat.succ_pos _)
    cases fields with
    | nil =>
      rw [List.map_singleton,List.intercalate_singleton]
      exact hfield
    | cons next fields =>
      rw [List.map_cons,List.map_cons,List.intercalate_cons_cons,← List.map_cons]
      simp only [List.length_append,List.length_cons] at ih ⊢
      omega

/-- What json.dumps prints of such an object, json.loads reads. -/
theorem jsonLoads_jsonDumps (h : ∀ field ∈ fields, Plain field.1) :
    jsonLoads (jsonDumps (jsonTexts fields)) = some fields := by
  have hopen : ∀ cs, expect '\x7b' ('\x7b' :: cs) = some cs := fun cs => rfl
  rw [jsonLoads,jsonDumps_toList h,hopen,Option.bind_some]
  cases fields with
  | nil => rfl
  | cons field fields =>
    have hfirst : ∃ cs, [',',' '].intercalate ((field :: fields).map fieldText) = '"' :: cs := by
      rw [List.map_cons,fieldText,jsonString_toList]
      cases fields with
      | nil => exact ⟨_,List.intercalate_singleton⟩
      | cons next fields => exact ⟨_,List.intercalate_cons_cons⟩
    have hclose : expect '\x7d'
        ([',',' '].intercalate ((field :: fields).map fieldText) ++ ['\x7d']) = none := by
      obtain ⟨cs,hcs⟩ := hfirst
      rw [hcs]
      rfl
    have hlength := length_le_fields (field :: fields)
    rw [hclose]
    dsimp only
    rw [readFields_fields (List.cons_ne_nil field fields)
      (by rw [List.length_append]; exact Nat.le_add_right_of_le hlength)]
    rfl

end Objects

end RoutingBench
