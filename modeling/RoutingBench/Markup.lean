import RoutingBench.TextFields
set_option autoImplicit false

/-!
Texts in markup. Characters of a text that would be markup are escaped; a reader of the document
takes it apart into its tags, each with the text that follows it, and finds the cells of its tables.
-/

namespace Markup

/-- `str.replace` of one character. -/
def replaceChar (c : Char) (entity : String) (text : List Char) : List Char :=
  text.flatMap fun d => if d = c then entity.toList else [d]

/-- `html.escape` -/
def escapeChars (text : List Char) : List Char :=
  replaceChar '\'' "&#x27;" (replaceChar '"' "&quot;" (replaceChar '>' "&gt;"
    (replaceChar '<' "&lt;" (replaceChar '&' "&amp;" text))))

def escape (text : String) : String := String.ofList (escapeChars text.toList)

def unescapeChars : List Char → List Char
  | '&' :: 'a' :: 'm' :: 'p' :: ';' :: text => '&' :: unescapeChars text
  | '&' :: 'l' :: 't' :: ';' :: text => '<' :: unescapeChars text
  | '&' :: 'g' :: 't' :: ';' :: text => '>' :: unescapeChars text
  | '&' :: 'q' :: 'u' :: 'o' :: 't' :: ';' :: text => '"' :: unescapeChars text
  | '&' :: '#' :: 'x' :: '2' :: '7' :: ';' :: text => '\'' :: unescapeChars text
  | c :: text => c :: unescapeChars text
  | [] => []

def unescape (text : String) : String := String.ofList (unescapeChars text.toList)

def tag (name : String) : String := "<" ++ name ++ ">"

/-- A document of tags and texts. -/
def write : List (String × String) → String
  | [] => ""
  | p :: ps => tag p.1 ++ p.2 ++ write ps

/-- The tags of a document, each with the text up to the next one. -/
def pieces (html : String) : List (String × String) :=
  (html.toList.splitOn '<').tail.map fun field =>
    (String.ofList (field.takeWhile (· ≠ '>')),String.ofList ((field.dropWhile (· ≠ '>')).drop 1))

/-- A tag without its attributes. -/
def elementName (name : String) : String := String.ofList (name.toList.takeWhile (· ≠ ' '))

/-- The rows that were read, and the cells of the one that is open. -/
structure Reader where
  rows : List (List String) := []
  cells : List String := []
  cell : Option String := none
  deriving DecidableEq

def Reader.step (r : Reader) (p : String × String) : Reader :=
  if elementName p.1 ∈ ["td","th"] then { r with cell := some (unescape p.2) }
  else if elementName p.1 ∈ ["/td","/th"] then
    { r with cells := r.cells ++ r.cell.toList, cell := none }
  else if elementName p.1 = "tr" then { r with cells := [] }
  else if elementName p.1 = "/tr" then { r with rows := r.rows ++ [r.cells], cells := [] }
  else { r with cell := r.cell.map (· ++ unescape p.2) }

/-- The rows of the tables of a document. -/
def readRows (html : String) : List (List String) := ((pieces html).foldl Reader.step {}).rows

section Escape

variable {c : Char} {text : List Char}

def escapeChar (c : Char) : String :=
  if c = '&' then "&amp;"
  else if c = '<' then "&lt;"
  else if c = '>' then "&gt;"
  else if c = '"' then "&quot;"
  else if c = '\'' then "&#x27;"
  else String.singleton c

theorem replaceChar_append (entity : String) (text text' : List Char) :
    replaceChar c entity (text ++ text') =
      replaceChar c entity text ++ replaceChar c entity text' := List.flatMap_append

theorem replaceChar_of_ne {d : Char} (h : d ≠ c) (entity : String) :
    replaceChar c entity [d] = [d] := by
  simp [replaceChar,h]

theorem escapeChars_append (text text' : List Char) :
    escapeChars (text ++ text') = escapeChars text ++ escapeChars text' := by
  simp only [escapeChars,replaceChar_append]

/-- What is escaped by one replacement is not escaped again by the next one. -/
theorem escapeChars_singleton (c : Char) : escapeChars [c] = (escapeChar c).toList := by
  by_cases h : c ∈ ['&','<','>','"','\'']
  · simp only [List.mem_cons,List.not_mem_nil,or_false] at h
    rcases h with rfl | rfl | rfl | rfl | rfl <;> decide
  · simp only [List.mem_cons,List.not_mem_nil,or_false,not_or] at h
    obtain ⟨hamp,hlt,hgt,hquot,hapos⟩ := h
    rw [escapeChars,replaceChar_of_ne hamp,replaceChar_of_ne hlt,replaceChar_of_ne hgt,
      replaceChar_of_ne hquot,replaceChar_of_ne hapos,escapeChar,if_neg hamp,if_neg hlt,if_neg hgt,
      if_neg hquot,if_neg hapos,String.toList_singleton]

theorem escapeChars_cons : escapeChars (c :: text) = (escapeChar c).toList ++ escapeChars text := by
  rw [← escapeChars_singleton,← escapeChars_append,List.singleton_append]

/-- No character of an escaped text opens or closes a tag or an attribute. -/
theorem not_mem_escapeChars (hc : c ∈ ['<','>','"','\'']) : c ∉ escapeChars text := by
  induction text with
  | nil => exact List.not_mem_nil
  | cons d text ih =>
    rw [escapeChars_cons,List.mem_append,not_or]
    refine ⟨?_,ih⟩
    by_cases h : d ∈ ['&','<','>','"','\'']
    · simp only [List.mem_cons,List.not_mem_nil,or_false] at h hc
      rcases h with rfl | rfl | rfl | rfl | rfl <;> rcases hc with rfl | rfl | rfl | rfl <;> decide
    · have hd : c ≠ d := by
        rintro rfl
        exact h (List.mem_cons_of_mem _ hc)
      simp only [List.mem_cons,List.not_mem_nil,or_false,not_or] at h
      obtain ⟨hamp,hlt,hgt,hquot,hapos⟩ := h
      simp [escapeChar,hamp,hlt,hgt,hquot,hapos,hd]

theorem unescapeChars_cons (h : c ≠ '&') : unescapeChars (c :: text) = c :: unescapeChars text := by
  rw [unescapeChars]
  all_goals
    intros
    contradiction

theorem unescapeChars_append_escapeChars (text text' : List Char) :
    unescapeChars (escapeChars text ++ text') = text ++ unescapeChars text' := by
  induction text with
  | nil => rfl
  | cons c text ih =>
    rw [escapeChars_cons,List.append_assoc]
    by_cases h : c ∈ ['&','<','>','"','\'']
    · simp only [List.mem_cons,List.not_mem_nil,or_false] at h
      rcases h with rfl | rfl | rfl | rfl | rfl <;> exact congrArg (List.cons _) ih
    · simp only [List.mem_cons,List.not_mem_nil,or_false,not_or] at h
      obtain ⟨hamp,hlt,hgt,hquot,hapos⟩ := h
      have hplain : (escapeChar c).toList = [c] := by
        simp [escapeChar,hamp,hlt,hgt,hquot,hapos]
      rw [hplain,List.singleton_append,unescapeChars_cons hamp,ih,List.cons_append]

/-- An escaped text is read as it was. -/
@[simp] theorem unescape_escape (text : String) : unescape (escape text) = text := by
  have hread := unescapeChars_append_escapeChars text.toList []
  rw [List.append_nil] at hread
  rw [unescape,escape,String.toList_ofList,hread]
  simp [unescapeChars]

theorem escape_append (text text' : String) : escape (text ++ text') = escape text ++ escape text' := by
  rw [escape,String.toList_append,escapeChars_append,String.ofList_append]
  rfl

theorem toList_escape (text : String) : (escape text).toList = escapeChars text.toList :=
  String.toList_ofList

end Escape

section Pieces

variable {ps qs : List (String × String)} {p : String × String}

/-- A name or a text does not open a tag, and a name does not close its own. -/
structure Clean (p : String × String) : Prop where
  name : '<' ∉ p.1.toList ∧ '>' ∉ p.1.toList
  text : '<' ∉ p.2.toList

instance (p : String × String) : Decidable (Clean p) :=
  decidable_of_iff (('<' ∉ p.1.toList ∧ '>' ∉ p.1.toList) ∧ '<' ∉ p.2.toList)
    ⟨fun h => ⟨h.1,h.2⟩,fun h => ⟨h.name,h.text⟩⟩

theorem not_mem_escape {c : Char} (hc : c ∈ ['<','>','"','\'']) (text : String) :
    c ∉ (escape text).toList := by
  rw [toList_escape]
  exact not_mem_escapeChars hc

theorem clean_escape {name : String} (h : '<' ∉ name.toList ∧ '>' ∉ name.toList) (text : String) :
    Clean (name,escape text) := ⟨h,not_mem_escape (by decide) text⟩

theorem write_append : write (ps ++ qs) = write ps ++ write qs := by
  induction ps with
  | nil => rw [List.nil_append,write,String.empty_append]
  | cons p ps ih => simp only [List.cons_append,write,ih,String.append_assoc]

theorem foldl_write {α : Type*} (row : α → List (String × String)) (items : List α)
    (text : String) : items.foldl (fun rows a => rows ++ write (row a)) text =
      text ++ write (items.flatMap row) := by
  induction items generalizing text with
  | nil => simp [write]
  | cons a items ih => rw [List.foldl_cons,ih,List.flatMap_cons,write_append,String.append_assoc]

theorem toList_write (ps : List (String × String)) : (write ps).toList =
    (ps.map fun p => p.1.toList ++ '>' :: p.2.toList).flatMap fun field => '<' :: field := by
  induction ps with
  | nil => rfl
  | cons p ps ih =>
    rw [write,String.toList_append,String.toList_append,ih]
    simp [tag]

theorem takeWhile_name (h : '>' ∉ p.1.toList) :
    (p.1.toList ++ '>' :: p.2.toList).takeWhile (· ≠ '>') = p.1.toList := by
  rw [List.takeWhile_append_of_pos (fun c hc => by simpa using fun heq : c = '>' => h (heq ▸ hc))]
  simp

theorem dropWhile_name (h : '>' ∉ p.1.toList) :
    (p.1.toList ++ '>' :: p.2.toList).dropWhile (· ≠ '>') = '>' :: p.2.toList := by
  rw [List.dropWhile_append_of_pos (fun c hc => by simpa using fun heq : c = '>' => h (heq ▸ hc))]
  simp

/-- A document is read as it was written. -/
theorem pieces_write (h : ∀ p ∈ ps, Clean p) : pieces (write ps) = ps := by
  rcases List.eq_nil_or_concat ps with rfl | ⟨_,_,_⟩
  · rfl
  · have hne : (ps.map fun p => p.1.toList ++ '>' :: p.2.toList) ≠ [] := by simp_all
    have hfields : ∀ field ∈ ps.map (fun p => p.1.toList ++ '>' :: p.2.toList), '<' ∉ field := by
      intro field hfield
      obtain ⟨p,hp,rfl⟩ := List.mem_map.mp hfield
      simpa using ⟨(h p hp).name.1,(h p hp).text⟩
    obtain ⟨field,fields,hcons⟩ := List.exists_cons_of_ne_nil hne
    have htext : '<' :: ['<'].intercalate (ps.map fun p => p.1.toList ++ '>' :: p.2.toList) =
        ['<'].intercalate ([] :: ps.map fun p => p.1.toList ++ '>' :: p.2.toList) := by
      rw [hcons,List.intercalate_cons_cons]
      rfl
    rw [pieces,toList_write,TextFields.flatMap_cons hne,htext,
      List.splitOn_intercalate '<' (List.forall_mem_cons.mpr ⟨List.not_mem_nil,hfields⟩)
        (List.cons_ne_nil _ _),List.tail_cons,List.map_map]
    refine (List.map_congr_left fun p hp => ?_).trans (List.map_id ps)
    have hname := (h p hp).name.2
    simp only [Function.comp_apply,takeWhile_name hname,dropWhile_name hname,List.drop_succ_cons,
      List.drop_zero,String.ofList_toList]
    rfl

end Pieces

section Rows

variable {front back : List (String × String)} {cells : List String} {α : Type*}

/-- These pieces are a row with these cells. -/
def IsRow (ps : List (String × String)) (cells : List String) : Prop :=
  ∀ rows, ps.foldl Reader.step ⟨rows,[],none⟩ = ⟨rows ++ [cells],[],none⟩

/-- These pieces are a cell of the row that is open. -/
def IsCell (ps : List (String × String)) (value : String) : Prop :=
  ∀ rows cells, ps.foldl Reader.step ⟨rows,cells,none⟩ = ⟨rows,cells ++ [value],none⟩

/-- These pieces are around rows. -/
def IsFrame (ps : List (String × String)) : Prop :=
  ∀ rows, ps.foldl Reader.step ⟨rows,[],none⟩ = ⟨rows,[],none⟩

theorem isCell_text {name close value : String} (hname : elementName name ∈ ["td","th"])
    (hclose : elementName close ∈ ["/td","/th"]) (text : String) (hvalue : unescape text = value) :
    IsCell [(name,text),(close,"")] value := by
  intro rows cells
  have hother : elementName close ∉ ["td","th"] := by
    simp only [List.mem_cons,List.not_mem_nil,or_false] at hclose ⊢
    rcases hclose with h | h <;> rw [h] <;> decide
  simp [Reader.step,hname,hclose,hother,hvalue]

theorem isCell_inner {name inner value : String}
    (hinner : elementName inner ∉ ["td","th","/td","/th","tr","/tr"])
    (hname : elementName name ∉ ["td","th","/td","/th","tr","/tr"]) (text : String)
    (hvalue : unescape text = value) :
    IsCell [("td",""),(inner,text),(name,""),("/td","")] value := by
  intro rows cells
  simp only [List.mem_cons,List.not_mem_nil,or_false,not_or] at hinner hname
  have htd : elementName "td" = "td" := by decide
  have hclose : elementName "/td" = "/td" := by decide
  have hempty : unescape "" = "" := by decide
  simp [Reader.step,hinner,hname,htd,hclose,hempty,hvalue]

theorem foldl_cells {cells : List (List (String × String))} {values : List String}
    (h : List.Forall₂ IsCell cells values) (rows : List (List String)) (before : List String) :
    cells.flatten.foldl Reader.step ⟨rows,before,none⟩ = ⟨rows,before ++ values,none⟩ := by
  induction h generalizing before with
  | nil => simp
  | cons hcell _ ih =>
    rw [List.flatten_cons,List.foldl_append,hcell,ih,List.append_assoc,List.singleton_append]

theorem isRow_cells {cells : List (List (String × String))} {values : List String}
    (h : List.Forall₂ IsCell cells values) (text : String) :
    IsRow (("tr","") :: (cells.flatten ++ [("/tr",text)])) values := by
  intro rows
  have hopen : Reader.step ⟨rows,[],none⟩ ("tr","") = ⟨rows,[],none⟩ := by
    simp [Reader.step,show elementName "tr" = "tr" by decide]
  have hclose : ∀ cells, Reader.step ⟨rows,cells,none⟩ ("/tr",text) =
      ⟨rows ++ [cells],[],none⟩ := by
    intro cells
    simp [Reader.step,show elementName "/tr" = "/tr" by decide]
  rw [List.foldl_cons,hopen,List.foldl_append,foldl_cells h,List.foldl_cons,hclose]
  rfl

theorem foldl_rows {row : α → List (String × String)} {values : α → List String} {items : List α}
    (h : ∀ a ∈ items, IsRow (row a) (values a)) (rows : List (List String)) :
    (items.flatMap row).foldl Reader.step ⟨rows,[],none⟩ =
      ⟨rows ++ items.map values,[],none⟩ := by
  induction items generalizing rows with
  | nil => simp
  | cons a items ih =>
    rw [List.flatMap_cons,List.foldl_append,h a List.mem_cons_self rows,
      ih fun b hb => h b (List.mem_cons_of_mem a hb)]
    simp

theorem isFrame_of_names {ps : List (String × String)}
    (h : ∀ p ∈ ps, elementName p.1 ∉ ["td","th","/td","/th","tr","/tr"]) : IsFrame ps := by
  intro rows
  induction ps with
  | nil => rfl
  | cons p ps ih =>
    have hp := h p List.mem_cons_self
    simp only [List.mem_cons,List.not_mem_nil,or_false,not_or] at hp
    have hstep : Reader.step ⟨rows,[],none⟩ p = ⟨rows,[],none⟩ := by
      simp [Reader.step,hp]
    rw [List.foldl_cons,hstep]
    exact ih fun q hq => h q (List.mem_cons_of_mem p hq)

/-- A table with a head is read row by row. -/
theorem readRows_table {head middle : List (String × String)} {row : α → List (String × String)}
    {values : α → List String} {items : List α}
    (hclean : ∀ p ∈ front ++ head ++ middle ++ items.flatMap row ++ back, Clean p)
    (hfront : IsFrame front) (hhead : IsRow head cells) (hmiddle : IsFrame middle)
    (hrow : ∀ a ∈ items, IsRow (row a) (values a)) (hback : IsFrame back) :
    readRows (write (front ++ head ++ middle ++ items.flatMap row ++ back)) =
      cells :: items.map values := by
  rw [readRows,pieces_write hclean,List.foldl_append,List.foldl_append,List.foldl_append,
    List.foldl_append,hfront,hhead,hmiddle,foldl_rows hrow,hback]
  simp

end Rows

end Markup
